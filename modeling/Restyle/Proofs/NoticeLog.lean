import Mathlib
import Restyle.NoticeBus

/-! # Logs of emissions
The log of a bus tells what was emitted, who was called and which emissions have ended. A piece of
it is closed (`BusEvent.Closed`) if every emission in it is complete (`Emission.IsDelivered`), and
every call belongs to an emission in it. Closed pieces are put together (`Closed.append`), and one
in which an emission is delivered makes a closed piece with its beginning and its end around it
(`Closed.emission`). -/

namespace Restyle

variable {μ : Type}

/-- A member `x` of `first ++ second` stands in one of the two, with the other one beside it. -/
theorem append_eq_append_cons_iff {α : Type} {first second before after : List α} {x : α} :
    first ++ second = before ++ x :: after ↔
      (∃ tail, first = before ++ x :: tail ∧ after = tail ++ second) ∨
        ∃ head, before = first ++ head ∧ second = head ++ x :: after := by
  constructor
  · intro h
    rcases List.append_eq_append_iff.mp h with ⟨head, rfl, hsecond⟩ | ⟨tail, hfirst, hafter⟩
    · exact .inr ⟨head, rfl, hsecond⟩
    · cases tail with
      | nil => exact .inr ⟨[], by simpa using hfirst.symm, hafter.symm⟩
      | cons y tail =>
        obtain ⟨rfl, rfl⟩ := List.cons.inj hafter
        exact .inl ⟨tail, hfirst, rfl⟩
  · rintro (⟨tail, rfl, rfl⟩ | ⟨head, rfl, rfl⟩) <;> simp

/-! ## Reading the log -/

namespace BusEvent

/-- What an event makes of the registrations. -/
def change (registrations : List (NoticeKind × String)) : BusEvent μ → List (NoticeKind × String)
  | .registered kind listener => registrations ++ [(kind, listener)]
  | .unregistered kind listener => registrations.erase (kind, listener)
  | _ => registrations

/-- The calls for the emission with a number. -/
def callsFor (n : Nat) (log : List (BusEvent μ)) : List (Emission μ × String) :=
  (log.filterMap call?).filter (·.1.number = n)

/-- The listeners that are registered for a kind, according to the log. -/
def listenersIn (log : List (BusEvent μ)) (kind : NoticeKind) : List String :=
  ((log.foldl change []).filter (·.1 = kind)).map (·.2)

/-- `emissions` goes through `++`. -/
@[simp] theorem emissions_append (log new : List (BusEvent μ)) :
    emissions (log ++ new) = emissions log ++ emissions new := List.filterMap_append

/-- `emissions (log ++ [event]) = emissions log` for an event that is no emission. -/
theorem emissions_append_of_none {event : BusEvent μ} (h : event.emission? = none)
    (log : List (BusEvent μ)) :
    emissions (log ++ [event]) = emissions log := by
  simp [emissions, h]

/-- `callsFor n` goes through `++`. -/
@[simp] theorem callsFor_append (n : Nat) (log new : List (BusEvent μ)) :
    callsFor n (log ++ new) = callsFor n log ++ callsFor n new := by
  simp [callsFor]

variable {e : Emission μ} {listener : String} {log : List (BusEvent μ)} {n : Nat}

/-- `event.emission? = some e ↔ event = .emitted e`. -/
theorem emission?_eq_some {event : BusEvent μ} : event.emission? = some e ↔ event = .emitted e := by
  cases event <;> simp [emission?]

/-- `event.call? = some (e, listener) ↔ event = .called e listener`. -/
theorem call?_eq_some {event : BusEvent μ} :
    event.call? = some (e, listener) ↔ event = .called e listener := by
  cases event <;> simp [call?]

/-- `e ∈ emissions log ↔ .emitted e ∈ log`. -/
theorem mem_emissions : e ∈ emissions log ↔ .emitted e ∈ log := by
  simp [emissions, emission?_eq_some]

/-- `(e, listener)` is among the calls exactly if `.called e listener ∈ log`. -/
theorem mem_calls : (e, listener) ∈ log.filterMap call? ↔ .called e listener ∈ log := by
  simp [call?_eq_some]

/-- `callsFor n log = []` if no call in `log` is for number `n`. -/
theorem callsFor_eq_nil (h : ∀ e listener, .called e listener ∈ log → e.number ≠ n) :
    callsFor n log = [] := by
  refine List.filter_eq_nil_iff.mpr ?_
  rintro ⟨e, listener⟩ hcall
  simpa using h e listener (mem_calls.mp hcall)

end BusEvent

open BusEvent

/-! ## Complete emissions -/

/-- What follows on an emission: the listeners that are registered before it are called, once each
and in order, before it ends, and not again; and until then no older emission goes on. -/
def Emission.IsDelivered (e : Emission μ) (past after : List (BusEvent μ)) : Prop :=
  ∃ during rest, after = during ++ .ended e :: rest ∧
    callsFor e.number during = (listenersIn past e.kind).map (e, ·) ∧ callsFor e.number rest = [] ∧
    ∀ e' listener, .called e' listener ∈ during → e.number ≤ e'.number

/-- `IsDelivered` is kept when a log without calls for the emission follows. -/
theorem Emission.IsDelivered.append {e : Emission μ} {past after more : List (BusEvent μ)}
    (h : e.IsDelivered past after) (hmore : callsFor e.number more = []) :
    e.IsDelivered past (after ++ more) := by
  obtain ⟨during, rest, rfl, hduring, hrest, holder⟩ := h
  exact ⟨during, rest ++ more, by simp, hduring, by simp [hrest, hmore], holder⟩

/-- The answer that a request gets when emissions may still be nested `depth` deep. -/
def BusRequest.answer (depth : Nat) : BusRequest μ → Except BusError Unit
  | .on kind _ => if (NoticeKind.ofName? kind).isSome then .ok () else .error (.unknownKind kind)
  | .off _ _ => .ok ()
  | .emit kind _ =>
    if (NoticeKind.ofName? kind).isSome then if depth = 0 then .error .nestedTooDeep else .ok ()
    else .error (.unknownKind kind)

/-- A closed piece of a log: every emission in it is complete, and every call is one for an emission
in it, or for the emission that is being delivered all the while. -/
structure BusEvent.Closed (current : Option (Emission μ)) (past new : List (BusEvent μ)) :
    Prop where
  /-- Emissions are numbered and delivered. -/
  emitted : ∀ before e after, new = before ++ .emitted e :: after →
    e.number = (emissions (past ++ before)).length ∧ e.IsDelivered (past ++ before) after
  /-- Calls follow on the emission. -/
  called : ∀ before e listener after, new = before ++ .called e listener :: after →
    .emitted e ∈ before ∨ current = some e
  /-- Only requests that have to be are refused. -/
  refused : ∀ r error, .refused r error ∈ new → ∃ depth, r.answer depth = .error error

namespace BusEvent.Closed

variable {current : Option (Emission μ)} {past new first second : List (BusEvent μ)}
  {e : Emission μ} {listener : String}

/-- The empty piece of a log is closed. -/
theorem nil (current : Option (Emission μ)) (past : List (BusEvent μ)) :
    Closed current past [] where
  emitted := by simp
  called := by simp
  refused := by simp

/-- The emissions of a closed piece have numbers from `(emissions past).length` on. -/
theorem le_number (h : Closed current past new) (he : .emitted e ∈ new) :
    (emissions past).length ≤ e.number := by
  obtain ⟨before, after, rfl⟩ := List.append_of_mem he
  rw [(h.emitted before e after rfl).1, emissions_append, List.length_append]
  exact Nat.le_add_right _ _

/-- A call in a closed piece is for a number from `(emissions past).length` on, or for `current`. -/
theorem le_number_of_called (h : Closed current past new) (he : .called e listener ∈ new) :
    (emissions past).length ≤ e.number ∨ current = some e := by
  obtain ⟨before, after, rfl⟩ := List.append_of_mem he
  refine (h.called before e listener after rfl).imp_left fun hmem => h.le_number ?_
  exact List.mem_append_left _ hmem

/-- A closed piece has no calls for a number below `(emissions past).length`, if nothing is being
delivered. -/
theorem callsFor_eq_nil (h : Closed none past new) {n : Nat} (hn : n < (emissions past).length) :
    callsFor n new = [] := by
  refine BusEvent.callsFor_eq_nil fun e listener hcall heq => ?_
  have hle := (h.le_number_of_called hcall).resolve_right (by simp)
  omega

/-- A piece that is closed while nothing is being delivered is closed in any case. -/
theorem weaken (h : Closed none past new) (current : Option (Emission μ)) :
    Closed current past new where
  emitted := h.emitted
  called before e listener after hnew :=
    .inl ((h.called before e listener after hnew).resolve_right (by simp))
  refused := h.refused

/-- Two closed pieces in a row are a closed piece. -/
theorem append (hfirst : Closed current past first)
    (hsecond : Closed current (past ++ first) second)
    (hcurrent : ∀ e, current = some e → e.number < (emissions past).length) :
    Closed current past (first ++ second) where
  emitted before e after hnew := by
    rcases append_eq_append_cons_iff.mp hnew with ⟨tail, rfl, rfl⟩ | ⟨head, rfl, rfl⟩
    · obtain ⟨hnumber, hdelivered⟩ := hfirst.emitted before e tail rfl
      refine ⟨hnumber, hdelivered.append ?_⟩
      -- what comes later are newer emissions, and the one that is being delivered all the while is
      -- older
      refine BusEvent.callsFor_eq_nil fun e' listener hcall heq => ?_
      have hold := hfirst.le_number (e := e) (by simp)
      rcases hsecond.le_number_of_called hcall with hle | hsame
      · simp [emissions, emission?] at hle hnumber
        omega
      · have := hcurrent e' hsame
        omega
    · obtain ⟨hnumber, hdelivered⟩ := hsecond.emitted head e after rfl
      rw [List.append_assoc] at hnumber hdelivered
      exact ⟨hnumber, hdelivered⟩
  called before e listener after hnew := by
    rcases append_eq_append_cons_iff.mp hnew with ⟨tail, rfl, rfl⟩ | ⟨head, rfl, rfl⟩
    · exact hfirst.called before e listener tail rfl
    · exact (hsecond.called head e listener after rfl).imp_left (List.mem_append_right _)
  refused r error hmem := by
    rcases List.mem_append.mp hmem with hmem | hmem
    · exact hfirst.refused r error hmem
    · exact hsecond.refused r error hmem

/-- An emission in the first part of a closed piece has a number below
`(emissions (past ++ before)).length`. -/
theorem number_lt {before after : List (BusEvent μ)} (h : Closed current past (before ++ after))
    (he : .emitted e ∈ before) : e.number < (emissions (past ++ before)).length := by
  obtain ⟨first, rest, rfl⟩ := List.append_of_mem he
  rw [(h.emitted first e (rest ++ after) (by simp)).1]
  simp [emissions, emission?]

/-- `callsFor e.number before = []`: nobody is called for an emission before it begins. -/
theorem callsFor_before {before after : List (BusEvent μ)}
    (h : Closed none past (before ++ .emitted e :: after)) :
    callsFor e.number before = [] := by
  refine BusEvent.callsFor_eq_nil fun e' listener hcall heq => ?_
  obtain ⟨first, rest, rfl⟩ := List.append_of_mem hcall
  have hmem :=
    (h.called first e' listener (rest ++ .emitted e :: after) (by simp)).resolve_right (by simp)
  have hlt := h.number_lt (List.mem_append_left _ hmem)
  have hnumber := (h.emitted _ e after rfl).1
  omega

/-- All calls for an emission stand between `.emitted e` and `.ended e`, and are those of the
listeners that were registered when it began. -/
theorem exists_during {before after : List (BusEvent μ)}
    (h : Closed none past (before ++ .emitted e :: after)) :
    ∃ during rest, after = during ++ .ended e :: rest ∧
      callsFor e.number during = (listenersIn (past ++ before) e.kind).map (e, ·) ∧
      callsFor e.number (before ++ .emitted e :: after) = callsFor e.number during ∧
      ∀ e' listener, .called e' listener ∈ during → e.number ≤ e'.number := by
  obtain ⟨-, during, rest, rfl, hduring, hrest, holder⟩ := h.emitted before e after rfl
  refine ⟨during, rest, rfl, hduring, ?_, holder⟩
  have hsplit : before ++ .emitted e :: (during ++ .ended e :: rest) =
      before ++ ([.emitted e] ++ (during ++ ([.ended e] ++ rest))) := rfl
  have hbegin : callsFor e.number [BusEvent.emitted e] = [] := rfl
  have hend : callsFor e.number [BusEvent.ended e] = [] := rfl
  rw [hsplit]
  simp only [callsFor_append, h.callsFor_before, hbegin, hend, hrest, List.nil_append,
    List.append_nil]

/-- A single event that is no emission is a closed piece, if a call is for `current` and a refusal
is one that `BusRequest.answer` gives. -/
theorem single {event : BusEvent μ} (hemitted : ∀ e, event ≠ .emitted e)
    (hcalled : ∀ e listener, event = .called e listener → current = some e)
    (hrefused : ∀ r error, event = .refused r error → ∃ depth, r.answer depth = .error error)
    (past : List (BusEvent μ)) : Closed current past [event] where
  emitted before e after hnew := by
    rcases List.singleton_eq_append_iff.mp hnew with ⟨-, hcons⟩ | ⟨-, hnil⟩
    · exact absurd (List.cons.inj hcons).1.symm (hemitted e)
    · cases hnil
  called before e listener after hnew := by
    rcases List.singleton_eq_append_iff.mp hnew with ⟨-, hcons⟩ | ⟨-, hnil⟩
    · exact .inr (hcalled e listener (List.cons.inj hcons).1.symm)
    · cases hnil
  refused r error hmem := hrefused r error (List.mem_singleton.mp hmem).symm

/-- An emission, its calls and `.ended e` are a closed piece, if the calls are those of
`listenersIn past e.kind`. -/
theorem emission {body : List (BusEvent μ)} (hnumber : e.number = (emissions past).length)
    (hbody : Closed (some e) (past ++ [.emitted e]) body)
    (hcalls : callsFor e.number body = (listenersIn past e.kind).map (e, ·))
    (current : Option (Emission μ)) :
    Closed current past (.emitted e :: body ++ [.ended e]) where
  emitted before e' after hnew := by
    cases before with
    | nil =>
      -- the emission itself: its body is what follows, up to its own end
      obtain ⟨hsame, rfl⟩ := List.cons.inj hnew
      obtain rfl : e = e' := by simpa using hsame
      rw [List.append_nil]
      refine ⟨hnumber, body, [], rfl, hcalls, rfl, fun e' listener hcall => ?_⟩
      rcases hbody.le_number_of_called hcall with hle | hsame
      · simp [emissions, emission?] at hle hnumber
        omega
      · exact Nat.le_of_eq (congrArg Emission.number (Option.some.inj hsame))
    | cons first before =>
      -- one of the body: it is closed there, and the end behind it is no call of it
      obtain ⟨rfl, hrest⟩ := List.cons.inj hnew
      rcases append_eq_append_cons_iff.mp hrest with ⟨tail, rfl, rfl⟩ | ⟨head, rfl, hlast⟩
      · have hinner := hbody.emitted before e' tail rfl
        rw [List.append_assoc] at hinner
        exact ⟨hinner.1, hinner.2.append rfl⟩
      · rcases List.singleton_eq_append_iff.mp hlast with ⟨-, hcons⟩ | ⟨-, hnil⟩
        · cases hcons
        · cases hnil
  called before e' listener after hnew := by
    cases before with
    | nil => cases hnew
    | cons first before =>
      obtain ⟨rfl, hrest⟩ := List.cons.inj hnew
      rcases append_eq_append_cons_iff.mp hrest with ⟨tail, rfl, rfl⟩ | ⟨head, rfl, hlast⟩
      · rcases hbody.called before e' listener tail rfl with hmem | hsame
        · exact .inl (List.mem_cons_of_mem _ hmem)
        · exact .inl (Option.some.inj hsame ▸ List.mem_cons_self)
      · rcases List.singleton_eq_append_iff.mp hlast with ⟨-, hcons⟩ | ⟨-, hnil⟩
        · cases hcons
        · cases hnil
  refused r error hmem := by
    refine hbody.refused r error ?_
    simpa using hmem

end BusEvent.Closed

end Restyle
