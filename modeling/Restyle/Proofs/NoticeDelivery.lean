import Mathlib
import Restyle.Proofs.NoticeLog

/-! # Delivery of notices
Whatever the listeners of a bus do while they are called, every message reaches every registration
of its kind that was present when it was emitted, once and in order, before the emission ends. What
is added to the log while a program is followed is closed (`Proceeds`); the induction is on the
depth of nesting, and for each depth on the program. Main statement: every request, that of the
program and those of its listeners (`Asks`), gets an honest answer (`IsHonest`), so that what is
emitted is delivered (`Delivers`), and the bus is faithful in the end
(`NoticeBus.isFaithful_follow`). -/

namespace Restyle

open BusEvent

variable {μ : Type}

/-! ## Requests -/

namespace NoticeBus

/-- The registrations and the history of a bus are what its log says. -/
structure IsCoherent (b : NoticeBus μ) : Prop where
  /-- The registrations are those that are made and not taken back. -/
  registrations_eq : b.registrations = b.log.foldl change []
  /-- The history holds every message that is emitted, if it is kept. -/
  history_eq : b.history = if b.keepsHistory then (emissions b.log).map fun e =>
    (e.kind, e.message) else []

/-- One bus becomes another one while a closed piece is added to its log. -/
structure Proceeds (current : Option (Emission μ)) (b b' : NoticeBus μ) (new : List (BusEvent μ)) :
    Prop where
  /-- Whether messages are remembered does not change. -/
  keepsHistory_eq : b'.keepsHistory = b.keepsHistory
  /-- The new bus is coherent. -/
  isCoherent : b'.IsCoherent
  /-- The log goes on. -/
  log_eq : b'.log = b.log ++ new
  /-- What is new is closed. -/
  closed : Closed current b.log new

variable {b b' b'' : NoticeBus μ} {current : Option (Emission μ)} {new more : List (BusEvent μ)}
  {run : Runner μ} {behave : Behaviours μ} {e : Emission μ}

/-- `b.listeners kind = listenersIn b.log kind` on a coherent bus. -/
theorem IsCoherent.listeners_eq (h : b.IsCoherent) (kind : NoticeKind) :
    b.listeners kind = listenersIn b.log kind := by
  rw [NoticeBus.listeners, h.registrations_eq, listenersIn]

/-- `IsCoherent` is kept by one event that is no emission, when the registrations follow
`change`. -/
theorem IsCoherent.next (h : b.IsCoherent) {event : BusEvent μ} (hemitted : event.emission? = none)
    (hlog : b'.log = b.log ++ [event])
    (hregistrations : b'.registrations = change b.registrations event)
    (hhistory : b'.history = b.history) (hkeeps : b'.keepsHistory = b.keepsHistory) :
    b'.IsCoherent := by
  constructor
  · rw [hregistrations, hlog, h.registrations_eq]
    simp
  · rw [hhistory, hkeeps, hlog, emissions_append_of_none hemitted, h.history_eq]

/-- `record` keeps `IsCoherent` for an event that changes neither the registrations nor the
history. -/
theorem IsCoherent.record (h : b.IsCoherent) {event : BusEvent μ}
    (hemitted : event.emission? = none) (hchange : ∀ registrations,
      change registrations event = registrations) : (b.record event).IsCoherent :=
  h.next hemitted rfl (hchange _).symm rfl rfl

/-- Doing nothing proceeds with `[]`. -/
theorem Proceeds.refl (h : b.IsCoherent) (current : Option (Emission μ)) :
    Proceeds current b b [] :=
  ⟨rfl, h, by simp, .nil _ _⟩

/-- `Proceeds` goes through `++` of the pieces. -/
theorem Proceeds.trans (h : Proceeds current b b' new) (h' : Proceeds current b' b'' more)
    (hcurrent : ∀ e, current = some e → e.number < (emissions b.log).length) :
    Proceeds current b b'' (new ++ more) := by
  refine ⟨h'.keepsHistory_eq.trans h.keepsHistory_eq, h'.isCoherent, ?_, ?_⟩
  · rw [h'.log_eq, h.log_eq, List.append_assoc]
  · exact h.closed.append (h.log_eq ▸ h'.closed) hcurrent

/-- `Proceeds none` is `Proceeds current` for any emission that is being delivered. -/
theorem Proceeds.weaken (h : Proceeds none b b' new) (current : Option (Emission μ)) :
    Proceeds current b b' new :=
  ⟨h.keepsHistory_eq, h.isCoherent, h.log_eq, h.closed.weaken current⟩

/-- Whatever is asked of a bus, a closed piece is added to its log. -/
def Runner.KeepsOrder (run : Runner μ) : Prop :=
  ∀ r b, b.IsCoherent → ∃ new, Proceeds none b (run r b).2 new

/-- `follow run p` proceeds with a closed piece if the runner keeps the order. -/
theorem Runner.KeepsOrder.follow (hrun : Runner.KeepsOrder run) (p : Program μ)
    (hb : b.IsCoherent) :
    ∃ new, Proceeds none b (NoticeBus.follow run p b).2 new := by
  induction p generalizing b with
  | finish => exact ⟨[], .refl hb none⟩
  | fail => exact ⟨[], .refl hb none⟩
  | ask r next ih =>
    obtain ⟨first, hfirst⟩ := hrun r b hb
    obtain ⟨rest, hrest⟩ := ih (run r b).1 (run r b).2 hfirst.isCoherent
    exact ⟨first ++ rest, hfirst.trans hrest (by simp)⟩

/-- `call run behave e b listener` proceeds with a closed piece, whose only call for `e` is that of
`listener`. -/
theorem Runner.KeepsOrder.call (hrun : Runner.KeepsOrder run) (behave : Behaviours μ)
    (hb : b.IsCoherent) (he : e.number < (emissions b.log).length) (listener : String) :
    ∃ new, Proceeds (some e) b (NoticeBus.call run behave e b listener) new ∧
      callsFor e.number new = [(e, listener)] := by
  have hcurrent : ∀ e', some e = some e' → e'.number < (emissions b.log).length :=
    fun e' hsame => Option.some.inj hsame ▸ he
  -- the listener is called
  have hcalled : Proceeds (some e) b (b.record (.called e listener)) [.called e listener] := by
    refine ⟨rfl, hb.record rfl fun _ => rfl, rfl, .single (by simp) ?_ (by simp) _⟩
    intro e' listener' hsame
    cases hsame
    rfl
  -- it does something
  obtain ⟨done, hdone⟩ := hrun.follow (behave listener e.message (b.record (.called e listener)))
    hcalled.isCoherent
  have hboth := hcalled.trans (hdone.weaken (some e)) hcurrent
  have hnone : callsFor e.number done = [] := by
    refine hdone.closed.callsFor_eq_nil ?_
    rw [hcalled.log_eq, emissions_append, List.length_append]
    omega
  have hcalls : callsFor e.number ([.called e listener] ++ done) = [(e, listener)] := by
    rw [callsFor_append, hnone]
    simp [callsFor, call?]
  unfold NoticeBus.call
  simp only
  split
  · next b' hfollow =>
    rw [hfollow] at hboth
    exact ⟨_, hboth, hcalls⟩
  · next b' hfollow =>
    rw [hfollow] at hboth
    -- its failure is noted
    have hfailed : Proceeds (some e) b' (b'.record (.failed e listener)) [.failed e listener] :=
      ⟨rfl, hboth.isCoherent.record rfl fun _ => rfl, rfl, .single (by simp) (by simp) (by simp) _⟩
    refine ⟨_, hboth.trans hfailed hcurrent, ?_⟩
    rw [callsFor_append, hcalls]
    rfl

/-- Calling `listeners` proceeds with a closed piece, whose calls for `e` are those of `listeners`,
in order. -/
theorem Runner.KeepsOrder.foldl_call (hrun : Runner.KeepsOrder run) (behave : Behaviours μ)
    (hb : b.IsCoherent) (he : e.number < (emissions b.log).length) (listeners : List String) :
    ∃ new, Proceeds (some e) b (listeners.foldl (NoticeBus.call run behave e) b) new ∧
      callsFor e.number new = listeners.map (e, ·) := by
  induction listeners generalizing b with
  | nil => exact ⟨[], .refl hb _, rfl⟩
  | cons listener listeners ih =>
    obtain ⟨first, hfirst, hcall⟩ := hrun.call behave hb he listener
    have he' : e.number < (emissions (NoticeBus.call run behave e b listener).log).length := by
      rw [hfirst.log_eq, emissions_append, List.length_append]
      omega
    obtain ⟨rest, hrest, hcalls⟩ := ih hfirst.isCoherent he'
    refine ⟨first ++ rest, hfirst.trans hrest fun e' hsame => Option.some.inj hsame ▸ he, ?_⟩
    rw [callsFor_append, hcall, hcalls]
    rfl

/-- `IsCoherent` is kept when a message is remembered and its emission recorded. -/
theorem IsCoherent.remember (hb : b.IsCoherent) (e : Emission μ) :
    ((b.remember e.kind e.message).record (.emitted e)).IsCoherent ∧
      ((b.remember e.kind e.message).record (.emitted e)).log = b.log ++ [.emitted e] ∧
      ((b.remember e.kind e.message).record (.emitted e)).keepsHistory = b.keepsHistory := by
  obtain ⟨hregistrations, hhistory⟩ := hb
  unfold NoticeBus.remember
  split
  · next hkeeps =>
    rw [if_pos hkeeps] at hhistory
    refine ⟨⟨?_, ?_⟩, rfl, rfl⟩
    · simp [NoticeBus.record, hregistrations, change]
    · simp [NoticeBus.record, hkeeps, hhistory, emissions, emission?]
  · next hkeeps =>
    rw [if_neg hkeeps] at hhistory
    refine ⟨⟨?_, ?_⟩, rfl, rfl⟩
    · simp [NoticeBus.record, hregistrations, change]
    · simp [NoticeBus.record, hkeeps, hhistory]

/-- The bus on which the emission of a message has begun: the message is remembered, and nobody has
been called. -/
def begin (b : NoticeBus μ) (kind : NoticeKind) (message : μ) : NoticeBus μ :=
  (b.remember kind message).record (.emitted (b.nextEmission kind message))

/-- `(b.begin kind message).listeners k = b.listeners k`. -/
@[simp] theorem listeners_begin (b : NoticeBus μ) (kind k : NoticeKind) (message : μ) :
    (b.begin kind message).listeners k = b.listeners k := by
  unfold begin NoticeBus.remember
  split <;> rfl

/-- `b.begin kind message` is coherent when `b` is, and its log is `b.log ++ [.emitted e]`. -/
theorem IsCoherent.begin (hb : b.IsCoherent) (kind : NoticeKind) (message : μ) :
    (b.begin kind message).IsCoherent ∧
      (b.begin kind message).log = b.log ++ [.emitted (b.nextEmission kind message)] ∧
      (b.begin kind message).keepsHistory = b.keepsHistory :=
  hb.remember (b.nextEmission kind message)

/-- The number of `b.nextEmission kind message` is below the next one after `begin`. -/
theorem IsCoherent.number_lt_begin (hb : b.IsCoherent) (kind : NoticeKind) (message : μ) :
    (b.nextEmission kind message).number < (emissions (b.begin kind message).log).length := by
  rw [(hb.begin kind message).2.1, emissions_append, List.length_append]
  exact Nat.lt_succ_self _

/-- An emission adds `.emitted e :: during ++ [.ended e]` to the log, where `during` holds one call
for each registration of the kind. -/
theorem Runner.KeepsOrder.emit (hrun : Runner.KeepsOrder run) (hb : b.IsCoherent)
    (kind : NoticeKind) (message : μ) :
    ∃ during, Proceeds none b (NoticeBus.emit run behave kind message b)
        (.emitted (b.nextEmission kind message) :: during ++
          [.ended (b.nextEmission kind message)]) ∧
      callsFor (b.nextEmission kind message).number during =
        (b.listeners kind).map (b.nextEmission kind message, ·) := by
  set e := b.nextEmission kind message with he
  obtain ⟨hcoherent, hlog, hkeeps⟩ := hb.begin kind message
  -- the listeners called are those registered when the emission begins
  obtain ⟨during, hduring, hcalls⟩ :=
    hrun.foldl_call behave hcoherent (hb.number_lt_begin kind message)
    ((b.begin kind message).listeners kind)
  rw [← he] at hduring hcalls hlog
  rw [listeners_begin] at hcalls
  have hemit : NoticeBus.emit run behave kind message b =
      (((b.begin kind message).listeners kind).foldl (NoticeBus.call run behave e)
        (b.begin kind message)).record
        (.ended e) := rfl
  refine ⟨during, ⟨?_, ?_, ?_, ?_⟩, hcalls⟩
  · rw [hemit]
    exact hduring.keepsHistory_eq.trans hkeeps
  · rw [hemit]
    exact hduring.isCoherent.record rfl fun _ => rfl
  · rw [hemit, NoticeBus.record, hduring.log_eq, hlog]
    simp
  · rw [hb.listeners_eq] at hcalls
    exact .emission rfl (hlog ▸ hduring.closed) hcalls none

/-- `register` proceeds with `[.registered kind listener]`. -/
theorem Proceeds.register (hb : b.IsCoherent) (kind : NoticeKind) (listener : String) :
    Proceeds none b (b.register kind listener) [.registered kind listener] :=
  ⟨rfl, hb.next rfl rfl rfl rfl rfl, rfl, .single (by simp) (by simp) (by simp) _⟩

/-- `unregister` proceeds with `[.unregistered kind listener]`. -/
theorem Proceeds.unregister (hb : b.IsCoherent) (kind : NoticeKind) (listener : String) :
    Proceeds none b (b.unregister kind listener) [.unregistered kind listener] :=
  ⟨rfl, hb.next rfl rfl rfl rfl rfl, rfl, .single (by simp) (by simp) (by simp) _⟩

/-- `refuse` proceeds with `[.refused r error]`, for an error that `BusRequest.answer` gives. -/
theorem Proceeds.refuse (hb : b.IsCoherent) {r : BusRequest μ} {error : BusError}
    (hanswer : ∃ depth, r.answer depth = .error error) :
    Proceeds none b (b.refuse r error).2 [.refused r error] := by
  refine ⟨rfl, hb.record rfl fun _ => rfl, rfl, .single (by simp) (by simp) ?_ _⟩
  intro r' error' hsame
  cases hsame
  exact hanswer

/-! ## Carrying out requests -/

/-- What is done for a request, and what the answer is, when emissions may be nested `depth`
deep. -/
inductive Does (behave : Behaviours μ) (b : NoticeBus μ) :
    Nat → BusRequest μ → Except BusError Unit × NoticeBus μ → Prop
  /-- The request is refused. -/
  | refuse {depth r error} (h : r.answer depth = .error error) :
    Does behave b depth r (b.refuse r error)
  /-- A listener is registered. -/
  | register {depth kind k listener} (h : NoticeKind.ofName? kind = some k) :
    Does behave b depth (.on kind listener) (.ok (), b.register k listener)
  /-- A registration is taken back. -/
  | unregister {depth kind k listener} (h : NoticeKind.ofName? kind = some k) :
    Does behave b depth (.off kind listener) (.ok (), b.unregister k listener)
  /-- There are no registrations for an unknown kind. -/
  | ignore {depth kind listener} (h : NoticeKind.ofName? kind = none) :
    Does behave b depth (.off kind listener) (.ok (), b)
  /-- A message is emitted. -/
  | emit {depth kind k message} (h : NoticeKind.ofName? kind = some k) :
    Does behave b (depth + 1) (.emit kind message) (.ok (),
      b.emit (NoticeBus.run behave depth) behave k message)

/-- `run behave depth r b` is one of the things that `Does` lists. -/
theorem does_run (behave : Behaviours μ) (depth : Nat) (r : BusRequest μ) (b : NoticeBus μ) :
    Does behave b depth r (NoticeBus.run behave depth r b) := by
  cases r with
  | on kind listener =>
    cases hkind : NoticeKind.ofName? kind with
    | some k => cases depth <;> simpa [NoticeBus.run, hkind] using Does.register hkind
    | none =>
      cases depth <;> simpa [NoticeBus.run, hkind]
        using Does.refuse (by simp [BusRequest.answer, hkind])
  | off kind listener =>
    cases hkind : NoticeKind.ofName? kind with
    | some k => cases depth <;> simpa [NoticeBus.run, hkind] using Does.unregister hkind
    | none => cases depth <;> simpa [NoticeBus.run, hkind] using Does.ignore hkind
  | emit kind message =>
    cases depth with
    | zero =>
      cases hkind : NoticeKind.ofName? kind <;>
        simpa [NoticeBus.run, hkind] using Does.refuse (by simp [BusRequest.answer, hkind])
    | succ depth =>
      cases hkind : NoticeKind.ofName? kind with
      | some k => simpa [NoticeBus.run, hkind] using Does.emit hkind
      | none => simpa [NoticeBus.run, hkind] using Does.refuse (by simp [BusRequest.answer, hkind])

/-- Whatever `Does` lists proceeds with a closed piece, if runs one level deeper keep the order. -/
theorem Does.proceeds {depth : Nat} {r : BusRequest μ} {out : Except BusError Unit × NoticeBus μ}
    (h : Does behave b depth r out) (hb : b.IsCoherent)
    (hdeeper : ∀ deeper, depth = deeper + 1 → Runner.KeepsOrder (NoticeBus.run behave deeper)) :
    ∃ new, Proceeds none b out.2 new := by
  cases h with
  | refuse hanswer => exact ⟨_, .refuse hb ⟨_, hanswer⟩⟩
  | register => exact ⟨_, .register hb _ _⟩
  | unregister => exact ⟨_, .unregister hb _ _⟩
  | ignore => exact ⟨_, .refl hb none⟩
  | @emit _ _ k message =>
    obtain ⟨during, hproceeds, -⟩ := (hdeeper _ rfl).emit hb k message
    exact ⟨_, hproceeds⟩

/-- `run behave depth` keeps the order, by induction on the depth. -/
theorem keepsOrder_run (behave : Behaviours μ) (depth : Nat) :
    Runner.KeepsOrder (NoticeBus.run behave depth) := by
  induction depth with
  | zero => exact fun r b hb => (does_run behave 0 r b).proceeds hb (by simp)
  | succ depth ih =>
    refine fun r b hb => (does_run behave (depth + 1) r b).proceeds hb fun deeper hdeeper => ?_
    exact Nat.succ.inj hdeeper ▸ ih

/-! ## What a bus promises -/

/-- What the emission of a message does to a bus: it is logged as the next emission `e`, and
remembered if messages are remembered, ahead of everything that its listeners emit; each
registration of its kind that is present is called with it, once and in order; and with that it
ends. -/
def Delivers (b : NoticeBus μ) (kind : NoticeKind) (message : μ) (b' : NoticeBus μ) : Prop :=
  let e := b.nextEmission kind message
  ∃ during, b'.log = b.log ++ .emitted e :: during ++ [.ended e] ∧
    callsFor e.number during = (b.listeners kind).map (e, ·) ∧
    b'.history = if b.keepsHistory then
      b.history ++ (kind, message) :: (emissions during).map fun e => (e.kind, e.message)
        else b.history

/-- `emit` `Delivers` its message, if the runner keeps the order. -/
theorem Runner.KeepsOrder.delivers_emit (hrun : Runner.KeepsOrder run) (hb : b.IsCoherent)
    (kind : NoticeKind) (message : μ) :
    b.Delivers kind message (NoticeBus.emit run behave kind message b) := by
  have hemit : ∃ during, Proceeds none b (NoticeBus.emit run behave kind message b)
      (.emitted (b.nextEmission kind message) :: during ++ [.ended (b.nextEmission kind message)]) ∧
      callsFor (b.nextEmission kind message).number during =
        (b.listeners kind).map (b.nextEmission kind message, ·) :=
    hrun.emit hb kind message
  obtain ⟨during, hproceeds, hcalls⟩ := hemit
  refine ⟨during, ?_, hcalls, ?_⟩
  · rw [hproceeds.log_eq, List.append_assoc, List.cons_append]
  · -- the history is what the log says, before the emission and after it
    rw [hproceeds.isCoherent.history_eq, hb.history_eq, hproceeds.keepsHistory_eq, hproceeds.log_eq]
    split
    · simp [emissions, emission?, nextEmission]
    · rfl

/-- What the answers of a bus are like, when emissions may be nested `depth` deep. -/
structure IsHonest (run : Runner μ) (depth : Nat) : Prop where
  /-- The answer does not depend on what the listeners do: only unknown kinds and emissions that are
  nested too deep are refused. -/
  answer_eq : ∀ r b, (run r b).1 = r.answer depth
  /-- What is refused changes nothing, and is noted. -/
  refused_eq : ∀ r b error, r.answer depth = .error error →
    (run r b).2 = b.record (.refused r error)
  /-- A new registration is the last one. -/
  registrations_on : ∀ kind k listener b, NoticeKind.ofName? kind = some k →
    (run (.on kind listener) b).2.registrations = b.registrations ++ [(k, listener)]
  /-- The oldest registration is taken back, and no other, if there is one. -/
  registrations_off : ∀ kind listener b,
    ((run (.off kind listener) b).2.registrations = b.registrations ∧
        ∀ k, NoticeKind.ofName? kind = some k → (k, listener) ∉ b.registrations) ∨
      ∃ k older newer, NoticeKind.ofName? kind = some k ∧ (k, listener) ∉ older ∧
        b.registrations = older ++ (k, listener) :: newer ∧
        (run (.off kind listener) b).2.registrations = older ++ newer
  /-- Nothing is remembered but what is emitted. -/
  history_eq : ∀ r b, (∀ kind message, r ≠ .emit kind message) → (run r b).2.history = b.history
  /-- A message that is emitted is delivered. -/
  delivers : ∀ kind k message (b : NoticeBus μ), NoticeKind.ofName? kind = some k → depth ≠ 0 →
    b.IsCoherent → b.Delivers k message (run (.emit kind message) b).2

/-- The answers that a bus gives are honest at every depth. -/
theorem isHonest_run (behave : Behaviours μ) (depth : Nat) :
    IsHonest (NoticeBus.run behave depth) depth where
  answer_eq r b := by
    -- each law is read off the five ways a request of the runner can end
    have hdoes := does_run behave depth r b
    generalize NoticeBus.run behave depth r b = out at hdoes
    cases hdoes with
    | refuse h => exact h.symm
    | register h => simp [BusRequest.answer, h]
    | unregister h => rfl
    | ignore h => rfl
    | emit h => simp [BusRequest.answer, h]
  refused_eq r b error hanswer := by
    have hdoes := does_run behave depth r b
    generalize NoticeBus.run behave depth r b = out at hdoes
    cases hdoes with
    | refuse h =>
      obtain rfl := Except.error.inj (h.symm.trans hanswer)
      rfl
    | register h => simp [BusRequest.answer, h] at hanswer
    | unregister h => cases hanswer
    | ignore h => cases hanswer
    | emit h => simp [BusRequest.answer, h] at hanswer
  registrations_on kind k listener b hkind := by
    have hdoes := does_run behave depth (.on kind listener) b
    generalize NoticeBus.run behave depth (.on kind listener) b = out at hdoes
    cases hdoes with
    | refuse h => simp [BusRequest.answer, hkind] at h
    | register h =>
      obtain rfl := Option.some.inj (h.symm.trans hkind)
      rfl
  registrations_off kind listener b := by
    have hdoes := does_run behave depth (.off kind listener) b
    generalize NoticeBus.run behave depth (.off kind listener) b = out at hdoes
    cases hdoes with
    | refuse h => cases h
    | ignore h => exact .inl ⟨rfl, by simp [h]⟩
    | @unregister _ _ k _ h =>
      -- a listener that was never registered leaves the registrations alone
      by_cases hmem : (k, listener) ∈ b.registrations
      · obtain ⟨older, newer, hnot, heq, herase⟩ := List.exists_erase_eq hmem
        exact .inr ⟨k, older, newer, h, hnot, heq, herase⟩
      · refine .inl ⟨List.erase_of_not_mem hmem, fun k' hk' => ?_⟩
        obtain rfl := Option.some.inj (h.symm.trans hk')
        exact hmem
  history_eq r b hemit := by
    have hdoes := does_run behave depth r b
    generalize NoticeBus.run behave depth r b = out at hdoes
    cases hdoes with
    | refuse h => rfl
    | register h => rfl
    | unregister h => rfl
    | ignore h => rfl
    | emit h => exact absurd rfl (hemit _ _)
  delivers kind k message b hkind hdepth hb := by
    -- only here is a level of nesting spent: the listeners run one level deeper
    obtain ⟨depth, rfl⟩ := Nat.exists_eq_succ_of_ne_zero hdepth
    have hemit : NoticeBus.run behave (depth + 1) (.emit kind message) b =
        (.ok (), b.emit (NoticeBus.run behave depth) behave k message) := by
      simp only [NoticeBus.run, hkind]
    rw [hemit]
    exact (keepsOrder_run behave depth).delivers_emit hb k message

/-! ## Nested requests -/

/-- The requests that are carried out while a program is followed, those of the listeners among them
that are called meanwhile. Each is given with the bus as it is then, and with how deep emissions may
still be nested there: `Asks behave limit p b depth r b'` says that `r` is asked of `b'`, at
`depth`. -/
inductive Asks (behave : Behaviours μ) : Nat → Program μ → NoticeBus μ → Nat → BusRequest μ →
    NoticeBus μ → Prop
  /-- The program makes a request. -/
  | here {depth r next b} : Asks behave depth (.ask r next) b depth r b
  /-- The program goes on when its request has been answered. -/
  | later {depth r next b inner r' b'}
    (h : Asks behave depth (next (NoticeBus.run behave depth r b).1
      (NoticeBus.run behave depth r b).2)
      (NoticeBus.run behave depth r b).2 inner r' b') :
        Asks behave depth (.ask r next) b inner r' b'
  /-- A listener is called with a message that the program emits, after those that registered before
  it. -/
  | nested {depth kind k message next b before listener after now inner r' b'}
    (hkind : NoticeKind.ofName? kind = some k)
    (hlisteners : b.listeners k = before ++ listener :: after)
    (hnow : now =
      (before.foldl (NoticeBus.call (NoticeBus.run behave depth) behave (b.nextEmission k message))
      (b.begin k message)).record (.called (b.nextEmission k message) listener))
    (h : Asks behave depth (behave listener message now) now inner r' b') :
    Asks behave (depth + 1) (.ask (.emit kind message) next) b inner r' b'

/-- What a listener does is part of its call: the log that it leaves is continued by the call. -/
theorem log_follow_prefix_call (run : Runner μ) (behave : Behaviours μ) (e : Emission μ)
    (b : NoticeBus μ) (listener : String) :
    let now := b.record (.called e listener)
    (NoticeBus.follow run (behave listener e.message now) now).2.log <+:
      (NoticeBus.call run behave e b listener).log := by
  intro now
  unfold NoticeBus.call
  simp only
  split
  · next b' hfollow => rw [hfollow]
  · next b' hfollow =>
    rw [hfollow]
    exact List.prefix_append _ _

/-- While a message is emitted, each of its listeners is called on a coherent bus, and the log that
its call leaves is a prefix of the log after the emission. -/
theorem Runner.KeepsOrder.log_call_prefix_emit {run : Runner μ} (hrun : Runner.KeepsOrder run)
    (hb : b.IsCoherent) {k : NoticeKind} {message : μ} {before after : List String}
    {listener : String} (hlisteners : b.listeners k = before ++ listener :: after) :
    let e := b.nextEmission k message
    let reached := before.foldl (NoticeBus.call run behave e) (b.begin k message)
    reached.IsCoherent ∧
      (NoticeBus.call run behave e reached listener).log <+:
        (b.emit run behave k message).log := by
  intro e reached
  obtain ⟨hbegun, -, -⟩ := hb.begin k message
  -- the listeners before this one are called, then this one, and then the others
  obtain ⟨earlier, hearlier, -⟩ :=
    hrun.foldl_call behave hbegun (hb.number_lt_begin k message) before
  have hnumber : e.number < (emissions reached.log).length := by
    rw [hearlier.log_eq, emissions_append, List.length_append]
    exact Nat.lt_add_right _ (hb.number_lt_begin k message)
  obtain ⟨called, hcalled, -⟩ := hrun.call behave hearlier.isCoherent hnumber listener
  have hnumber' : e.number <
      (emissions (NoticeBus.call run behave e reached listener).log).length := by
    rw [hcalled.log_eq, emissions_append, List.length_append]
    exact Nat.lt_add_right _ hnumber
  obtain ⟨others, hothers, -⟩ := hrun.foldl_call behave hcalled.isCoherent hnumber' after
  refine ⟨hearlier.isCoherent, others ++ [.ended e], ?_⟩
  have hall : b.emit run behave k message =
      (((b.begin k message).listeners k).foldl (NoticeBus.call run behave e)
        (b.begin k message)).record (.ended e) := rfl
  rw [hall, listeners_begin, hlisteners, List.foldl_append, List.foldl_cons, NoticeBus.record,
    hothers.log_eq, List.append_assoc]

/-- Each request, nested or not, is asked of a coherent bus, and the log that it leaves is a prefix
of the final one. -/
theorem Asks.isCoherent_and_prefix {limit depth : Nat} {p : Program μ} {r : BusRequest μ}
    (h : Asks behave limit p b depth r b') (hb : b.IsCoherent) :
    b'.IsCoherent ∧ (NoticeBus.run behave depth r b').2.log <+:
      (NoticeBus.follow (NoticeBus.run behave limit) p b).2.log := by
  induction h with
  | @here depth r next b =>
    obtain ⟨first, hfirst⟩ := keepsOrder_run behave depth r b hb
    obtain ⟨rest, hrest⟩ := (keepsOrder_run behave depth).follow
      (next (NoticeBus.run behave depth r b).1 (NoticeBus.run behave depth r b).2) hfirst.isCoherent
    exact ⟨hb, rest, hrest.log_eq.symm⟩
  | @later depth r next b inner r' b' h ih =>
    obtain ⟨first, hfirst⟩ := keepsOrder_run behave depth r b hb
    exact ih hfirst.isCoherent
  | @nested depth kind k message next b before listener after now inner r' b' hkind hlisteners hnow
      h ih =>
    obtain ⟨hreached, hended⟩ :=
      (keepsOrder_run behave depth).log_call_prefix_emit hb hlisteners
    obtain ⟨hcoherent, hprefix⟩ := ih (hnow ▸ hreached.record rfl fun _ => rfl)
    refine ⟨hcoherent, hprefix.trans ?_⟩
    have hemit : NoticeBus.run behave (depth + 1) (.emit kind message) b =
        (.ok (), b.emit (NoticeBus.run behave depth) behave k message) := by
      simp only [NoticeBus.run, hkind]
    have hcall := log_follow_prefix_call (NoticeBus.run behave depth) behave
      (b.nextEmission k message) (before.foldl (NoticeBus.call (NoticeBus.run behave depth) behave
        (b.nextEmission k message)) (b.begin k message)) listener
    rw [← hnow] at hcall
    -- and then the program goes on
    obtain ⟨first, hfirst⟩ := keepsOrder_run behave (depth + 1) (.emit kind message) b hb
    obtain ⟨rest, hrest⟩ := (keepsOrder_run behave (depth + 1)).follow
      (next (NoticeBus.run behave (depth + 1) (.emit kind message) b).1
        (NoticeBus.run behave (depth + 1) (.emit kind message) b).2) hfirst.isCoherent
    refine hcall.trans (hended.trans ⟨rest, ?_⟩)
    rw [NoticeBus.follow, hrest.log_eq, hemit]

/-! ## Whole runs -/

/-- A bus on which every message has been delivered. -/
structure IsFaithful (b : NoticeBus μ) : Prop where
  /-- The registrations are those that were made and not taken back. -/
  registrations_eq : b.registrations = b.log.foldl change []
  /-- Every message that was emitted is remembered once, in order, if messages are remembered. -/
  history_eq : b.history = if b.keepsHistory then (emissions b.log).map fun e =>
    (e.kind, e.message) else []
  /-- Emissions are numbered from the first one on. -/
  number_eq : ∀ before e after, b.log = before ++ .emitted e :: after →
    e.number = (emissions before).length
  /-- For each message that was emitted the listeners are called that were registered for its kind
  just then, for each registration once and in order, and nobody else; after that the emission
  ends. -/
  calls_eq : ∀ before e after, b.log = before ++ .emitted e :: after →
    callsFor e.number b.log = (listenersIn before e.kind).map (e, ·) ∧
      ∃ during rest, after = during ++ .ended e :: rest ∧ callsFor e.number during =
        callsFor e.number b.log
  /-- Nothing was refused but unknown kinds, and emissions that were nested too deep. -/
  refused : ∀ r error, .refused r error ∈ b.log → ∃ depth, r.answer depth = .error error

/-- `Proceeds none b b' new` from an empty log makes `b'` faithful. -/
theorem Proceeds.isFaithful (h : Proceeds none b b' new) (hnew : b.log = []) : b'.IsFaithful := by
  have hlog : b'.log = new := by rw [h.log_eq, hnew, List.nil_append]
  have hclosed : Closed none [] new := hnew ▸ h.closed
  refine ⟨h.isCoherent.registrations_eq, h.isCoherent.history_eq, ?_, ?_, ?_⟩
  · rintro before e after heq
    exact (hclosed.emitted before e after (hlog ▸ heq)).1
  · rintro before e after heq
    rw [hlog] at heq ⊢
    subst heq
    obtain ⟨during, rest, rfl, hduring, hall, -⟩ := hclosed.exists_during
    exact ⟨hall.trans hduring, during, rest, rfl, hall.symm⟩
  · exact fun r error hmem => hclosed.refused r error (hlog ▸ hmem)

/-- Whatever is done with a bus, and whatever its listeners do while they are called: every request,
nested or not, is asked of a coherent bus and gets an honest answer, which is part of what the log
says in the end. So every message of a known kind is remembered once, and delivered once to each
registration of its kind (`IsHonest.delivers`). -/
theorem isFaithful_follow (behave : Behaviours μ) (limit : Nat) (keepsHistory : Bool)
    (p : Program μ) :
    let last := (NoticeBus.follow (NoticeBus.run behave limit) p { keepsHistory }).2
    last.IsFaithful ∧ (∀ depth, IsHonest (NoticeBus.run behave depth) depth) ∧
      ∀ depth r b, Asks behave limit p { keepsHistory } depth r b →
        b.IsCoherent ∧ (NoticeBus.run behave depth r b).2.log <+: last.log := by
  intro last
  have hnew : IsCoherent ({ keepsHistory } : NoticeBus μ) := ⟨rfl, by cases keepsHistory <;> rfl⟩
  obtain ⟨new, hproceeds⟩ := (keepsOrder_run behave limit).follow p hnew
  exact ⟨hproceeds.isFaithful rfl, isHonest_run behave,
    fun depth r b hasks => hasks.isCoherent_and_prefix hnew⟩

/-- A relay that answers what it hears with a message of another kind, and fails; all other
listeners do nothing. -/
def brokenRelay : Listeners String := fun listener =>
  if listener = "relay" then { requests := [.emit "warn" "again"], fails := true } else {}

/-- The answer of the relay is delivered while `"go"` is, and `"go"` reaches the other listener
although the relay has failed. -/
theorem delivers_brokenRelay :
    let p : Program String :=
      .script false [.on "log" "relay", .on "log" "screen", .on "warn" "screen", .emit "log" "go"]
    let last := (NoticeBus.follow (NoticeBus.run brokenRelay.behave nestingLimit) p {}).2
    last.IsFaithful ∧ last.history = [(.log, "go"), (.warn, "again")] ∧
      last.calls = [("relay", "go"), ("screen", "again"), ("screen", "go")] ∧
      .failed ⟨0, .log, "go"⟩ "relay" ∈ last.log ∧
      ∃ b, Asks brokenRelay.behave nestingLimit p {} 199 (.emit "warn" "again") b ∧
        b.Delivers .warn "again" (NoticeBus.run brokenRelay.behave 199 (.emit "warn" "again") b).2 ∧
        (NoticeBus.run brokenRelay.behave 199 (.emit "warn" "again") b).2.log <+: last.log := by
  intro p last
  obtain ⟨hfaithful, hhonest, hasked⟩ := isFaithful_follow brokenRelay.behave nestingLimit true p
  have hlog : last.log = [.registered .log "relay", .registered .log "screen",
      .registered .warn "screen", .emitted ⟨0, .log, "go"⟩, .called ⟨0, .log, "go"⟩ "relay",
      .emitted ⟨1, .warn, "again"⟩,
      .called ⟨1, .warn, "again"⟩ "screen", .ended ⟨1, .warn, "again"⟩,
      .failed ⟨0, .log, "go"⟩ "relay",
      .called ⟨0, .log, "go"⟩ "screen", .ended ⟨0, .log, "go"⟩] := rfl
  -- the relay is the first listener that is called with the last of the requests
  obtain ⟨b, hasks⟩ : ∃ b, Asks brokenRelay.behave nestingLimit p {} 199 (.emit "warn" "again") b :=
    ⟨_, .later
      (.later
        (.later
          (.nested (k := .log) rfl (show _ = [] ++ "relay" :: ["screen"] from rfl) rfl .here)))⟩
  obtain ⟨hcoherent, hprefix⟩ := hasked _ _ _ hasks
  refine ⟨hfaithful, rfl, rfl, ?_, b, hasks, ?_, hprefix⟩
  · rw [hlog]
    simp
  · exact (hhonest 199).delivers "warn" .warn "again" b rfl (by decide) hcoherent

end NoticeBus

end Restyle
