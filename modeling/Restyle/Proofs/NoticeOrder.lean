import Mathlib
import Restyle.Proofs.NoticeDelivery

/-! # The order of notices
A listener that is registered once for a kind, and stays so, hears every message of the kind once.
It hears them in the order in which they are recorded just if each of them has reached it before the
next one is emitted (`NoticeBus.heard_eq_recorded_iff`): not when a listener that is called earlier
emits a message of the kind itself (`NoticeBus.heard_ne_recorded_relayFirst`). -/

namespace Restyle

variable {μ : Type}

/-- `l.Pairwise R` if `R y x` holds for every member `x` and every `y` in front of it. -/
theorem pairwise_of_forall_split {α : Type} {R : α → α → Prop} {l : List α}
    (h : ∀ before x after, l = before ++ x :: after → ∀ y ∈ before, R y x) : l.Pairwise R := by
  induction l using List.reverseRecOn with
  | nil => exact .nil
  | append_singleton l x ih =>
    refine List.pairwise_append.mpr ⟨ih fun before y after heq => ?_,
      List.pairwise_singleton _ _, ?_⟩
    · exact h before y (after ++ [x]) (by simp [heq])
    · intro y hy z hz
      obtain rfl := List.mem_singleton.mp hz
      exact h l z [] rfl y hy

namespace BusEvent

/-! ## What is heard -/

/-- The messages of a kind that a listener is called with, in order. -/
def heard (kind : NoticeKind) (listener : String) (log : List (BusEvent μ)) : List (Emission μ) :=
  ((log.filterMap call?).filter fun c => c.1.kind = kind ∧ c.2 = listener).map (·.1)

/-- The messages of a kind that are emitted, in order. -/
def recorded (kind : NoticeKind) (log : List (BusEvent μ)) : List (Emission μ) :=
  (emissions log).filter (·.kind = kind)

/-- Whenever a message of the kind is emitted, the listener has been called with all messages of the
kind before it. -/
def TakesTurns (kind : NoticeKind) (listener : String) (log : List (BusEvent μ)) : Prop :=
  ∀ before e after, log = before ++ .emitted e :: after → e.kind = kind →
    ∀ e', .emitted e' ∈ before → e'.kind = kind → .called e' listener ∈ before

/-- No registration of the listener for the kind is made or taken back. -/
structure Stays (kind : NoticeKind) (listener : String) (log : List (BusEvent μ)) : Prop where
  /-- The listener is not registered again. -/
  not_registered : .registered kind listener ∉ log
  /-- The listener is not unregistered. -/
  not_unregistered : .unregistered kind listener ∉ log

variable {kind : NoticeKind} {listener : String} {past new log before after : List (BusEvent μ)}
  {e e' : Emission μ}

/-- `heard` goes through `++`. -/
@[simp] theorem heard_append (log new : List (BusEvent μ)) :
    heard kind listener (log ++ new) = heard kind listener log ++ heard kind listener new := by
  simp [heard]

/-- `e ∈ heard kind listener log` exactly if `.called e listener ∈ log` and `e.kind = kind`. -/
theorem mem_heard : e ∈ heard kind listener log ↔ .called e listener ∈ log ∧ e.kind = kind := by
  rw [← mem_calls]
  simp only [heard, List.mem_map, List.mem_filter, decide_eq_true_eq]
  constructor
  · rintro ⟨⟨e', listener'⟩, ⟨hmem, hkind, rfl⟩, rfl⟩
    exact ⟨hmem, hkind⟩
  · rintro ⟨hmem, hkind⟩
    exact ⟨(e, listener), ⟨hmem, hkind, rfl⟩, rfl⟩

/-- `e ∈ recorded kind log` exactly if `.emitted e ∈ log` and `e.kind = kind`. -/
theorem mem_recorded : e ∈ recorded kind log ↔ .emitted e ∈ log ∧ e.kind = kind := by
  simp [recorded, mem_emissions]

/-- What `listener` hears of number `n` is its part of `callsFor n log`. -/
theorem filter_heard (n : Nat) : (heard kind listener log).filter (·.number = n) =
    ((callsFor n log).filter fun c => c.1.kind = kind ∧ c.2 = listener).map (·.1) := by
  simp only [heard, callsFor, List.filter_map, List.filter_filter, Function.comp_def]
  congr 2
  funext c
  exact Bool.and_comm _ _

/-! ## Registrations that stay -/

/-- `Stays` passes to a start of the log. -/
theorem Stays.of_append (h : Stays kind listener (log ++ new)) : Stays kind listener log where
  not_registered hmem := h.not_registered (List.mem_append_left _ hmem)
  not_unregistered hmem := h.not_unregistered (List.mem_append_left _ hmem)

/-- An event that neither registers nor unregisters `listener` for `kind` leaves the count of that
registration. -/
theorem count_change {registrations : List (NoticeKind × String)} {event : BusEvent μ}
    (hregistered : event ≠ .registered kind listener)
    (hunregistered : event ≠ .unregistered kind listener) :
    (change registrations event).count (kind, listener) = registrations.count (kind, listener) := by
  cases event with
  | registered k l =>
    have hne : (k, l) ≠ (kind, listener) := by
      rintro ⟨⟩
      exact hregistered rfl
    simp [change, hne]
  | unregistered k l =>
    have hne : (kind, listener) ≠ (k, l) := by
      rintro ⟨⟩
      exact hunregistered rfl
    exact List.count_erase_of_ne hne
  | _ => rfl

/-- `listener` is among `listenersIn log kind` as often as it is registered. -/
theorem count_listenersIn (log : List (BusEvent μ)) (kind : NoticeKind) (listener : String) :
    (listenersIn log kind).count listener = (log.foldl change []).count (kind, listener) := by
  rw [listenersIn]
  generalize log.foldl change [] = registrations
  induction registrations with
  | nil => rfl
  | cons registration registrations ih =>
    obtain ⟨k, l⟩ := registration
    by_cases hkind : k = kind
    · by_cases hlistener : l = listener <;> simp [hkind, hlistener, ih]
    · simp [hkind, ih]

/-- A listener that stays is among `listenersIn` as often as before. -/
theorem Stays.count_eq (h : Stays kind listener new) :
    (listenersIn (past ++ new) kind).count listener = (listenersIn past kind).count listener := by
  rw [count_listenersIn, count_listenersIn, List.foldl_append]
  generalize past.foldl change [] = registrations
  induction new using List.reverseRecOn with
  | nil => rfl
  | append_singleton new event ih =>
    rw [List.foldl_append, List.foldl_cons, List.foldl_nil, count_change, ih h.of_append]
    · rintro rfl
      exact h.not_registered (by simp)
    · rintro rfl
      exact h.not_unregistered (by simp)

/-! ## The order -/

namespace Closed

variable {current : Option (Emission μ)}

/-- The emissions of a closed piece stand in the order of their numbers. -/
theorem pairwise_emissions (h : Closed current past new) :
    (emissions new).Pairwise (·.number < ·.number) := by
  refine List.pairwise_filterMap.mpr (pairwise_of_forall_split ?_)
  rintro before event after rfl event' hmem e' he' e he
  obtain rfl := emission?_eq_some.mp he
  obtain rfl := emission?_eq_some.mp he'
  rw [(h.emitted before e after rfl).1]
  exact h.number_lt hmem

/-- Two emissions of a closed piece with one number are the same. -/
theorem emitted_inj (h : Closed current past new) (he : .emitted e ∈ new) (he' : .emitted e' ∈ new)
    (hnumber : e.number = e'.number) : e = e' := by
  have hnodup : ((emissions new).map Emission.number).Nodup :=
    (List.pairwise_map.mpr h.pairwise_emissions).nodup
  exact List.inj_on_of_nodup_map hnodup (mem_emissions.mpr he) (mem_emissions.mpr he') hnumber

/-- In a closed piece an emission with a smaller number stands in front. -/
theorem emitted_mem_before (h : Closed current past (before ++ .emitted e :: after))
    (he' : .emitted e' ∈ before ++ .emitted e :: after) (hnumber : e'.number < e.number) :
    .emitted e' ∈ before := by
  have hpairwise := h.pairwise_emissions
  rw [← List.singleton_append, emissions_append, emissions_append] at hpairwise
  obtain ⟨-, hrest, -⟩ := List.pairwise_append.mp hpairwise
  have hlater := (List.pairwise_append.mp hrest).2.2 e (mem_emissions.mpr (by simp))
  rcases List.mem_append.mp he' with hbefore | hrest
  · exact hbefore
  · rcases List.mem_cons.mp hrest with hsame | hafter
    · cases hsame
      omega
    · have := hlater e' (mem_emissions.mpr hafter)
      omega

/-- In a closed piece `.emitted e` stands in front of every call for `e`. -/
theorem emitted_of_called (h : Closed none past new) (hbefore : before <+: new)
    (hcall : .called e listener ∈ before) :
    .emitted e ∈ before := by
  obtain ⟨after, rfl⟩ := hbefore
  obtain ⟨first, rest, rfl⟩ := List.append_of_mem hcall
  have hmem := (h.called first e listener (rest ++ after) (by simp)).resolve_right (by simp)
  exact List.mem_append_left _ hmem

section

variable (h : Closed none past new) (hone : (listenersIn past kind).count listener = 1)
  (hstays : Stays kind listener new)

include h hone hstays

/-- A listener that is registered once and stays hears every emission of its kind once. -/
theorem filter_heard_eq (he : .emitted e ∈ new) (hkind : e.kind = kind) :
    (heard kind listener new).filter (·.number = e.number) = [e] := by
  obtain ⟨before, after, rfl⟩ := List.append_of_mem he
  obtain ⟨during, rest, -, hduring, hall, -⟩ := h.exists_during
  have hcount : (listenersIn (past ++ before) kind).count listener = 1 :=
    hstays.of_append.count_eq.trans hone
  rw [filter_heard, hall, hduring, hkind, List.filter_map]
  simp [Function.comp_def, hkind, List.filter_eq, hcount]

/-- Nothing is heard twice. -/
theorem nodup_heard : (heard kind listener new).Nodup := by
  classical
  refine List.nodup_iff_count_le_one.mpr fun e => ?_
  by_cases hmem : e ∈ heard kind listener new
  · obtain ⟨hcall, hkind⟩ := mem_heard.mp hmem
    have hfilter := h.filter_heard_eq hone hstays (h.emitted_of_called List.prefix_rfl hcall) hkind
    calc (heard kind listener new).count e
        = ((heard kind listener new).filter (·.number = e.number)).count e :=
          (List.count_filter (by simp)).symm
      _ = [e].count e := by rw [hfilter]
      _ ≤ 1 := by simp
  · simp [List.count_eq_zero_of_not_mem hmem]

/-- Every emission of the kind calls the listener. -/
theorem called_of_emitted (he : .emitted e ∈ new) (hkind : e.kind = kind) :
    .called e listener ∈ new := by
  have hmem : e ∈ (heard kind listener new).filter (·.number = e.number) := by
    rw [h.filter_heard_eq hone hstays he hkind]
    exact List.mem_singleton_self e
  exact (mem_heard.mp (List.mem_of_mem_filter hmem)).1

/-- What is heard is what is recorded, up to the order. -/
theorem heard_perm_recorded : (heard kind listener new).Perm (recorded kind new) := by
  have hrecorded : (recorded kind new).Nodup :=
    (List.pairwise_map.mpr (h.pairwise_emissions.filter _)).nodup.of_map _
  refine (List.perm_ext_iff_of_nodup (h.nodup_heard hone hstays) hrecorded).mpr fun e => ?_
  rw [mem_heard, mem_recorded]
  constructor
  · rintro ⟨hcall, hkind⟩
    exact ⟨h.emitted_of_called List.prefix_rfl hcall, hkind⟩
  · rintro ⟨he, hkind⟩
    exact ⟨h.called_of_emitted hone hstays he hkind, hkind⟩

/-- `TakesTurns` holds if what is heard stands in the order of its numbers. -/
theorem takesTurns (hordered : (heard kind listener new).Pairwise (·.number < ·.number)) :
    TakesTurns kind listener new := by
  rintro before e after rfl hkind e' he' hkind'
  have hlt : e'.number < e.number :=
    (h.number_lt he').trans_eq (h.emitted before e after rfl).1.symm
  have hcall' := h.called_of_emitted hone hstays (List.mem_append_left _ he') hkind'
  obtain ⟨during, rest, rfl, hduring, -, holder⟩ := h.exists_during
  rcases List.mem_append.mp hcall' with hbefore | hlater
  · exact hbefore
  exfalso
  -- the listener is called with the new message while it is being delivered
  have hcall : .called e listener ∈ during := by
    have hcount := hstays.of_append.count_eq.trans hone
    have hmem : listener ∈ listenersIn (past ++ before) e.kind := by
      rw [hkind]
      exact List.count_pos_iff.mp (by omega)
    have hmem : (e, listener) ∈ callsFor e.number during := hduring ▸ List.mem_map_of_mem hmem
    exact mem_calls.mp (List.mem_of_mem_filter hmem)
  -- and with the old one only after that
  have hrest : .called e' listener ∈ rest := by
    rcases List.mem_cons.mp hlater with hsame | hlater
    · cases hsame
    rcases List.mem_append.mp hlater with hduring' | hlater
    · exact absurd hlt (Nat.not_lt.mpr (holder e' listener hduring'))
    rcases List.mem_cons.mp hlater with hsame | hrest
    · cases hsame
    · exact hrest
  have hsplit : before ++ .emitted e :: (during ++ .ended e :: rest) =
      (before ++ .emitted e :: during) ++ ([.ended e] ++ rest) := by simp
  rw [hsplit, heard_append] at hordered
  have hfirst : e ∈ heard kind listener (before ++ .emitted e :: during) :=
    mem_heard.mpr ⟨by simp [hcall], hkind⟩
  have hsecond : e' ∈ heard kind listener ([.ended e] ++ rest) :=
    mem_heard.mpr ⟨by simp [hrest], hkind'⟩
  have hgt := (List.pairwise_append.mp hordered).2.2 e hfirst e' hsecond
  omega

/-- What is heard stands in the order of its numbers if `TakesTurns` holds. -/
theorem pairwise_heard (hturns : TakesTurns kind listener new) :
    (heard kind listener new).Pairwise (·.number < ·.number) := by
  have hnodup := h.nodup_heard hone hstays
  rw [heard, List.pairwise_map, List.pairwise_filter, List.pairwise_filterMap]
  refine pairwise_of_forall_split ?_
  rintro before event after rfl event' hmem ⟨e', l'⟩ hcall' ⟨e, l⟩ hcall hheard' hheard
  obtain rfl := call?_eq_some.mp hcall
  obtain rfl := call?_eq_some.mp hcall'
  obtain ⟨hkind', rfl⟩ : e'.kind = kind ∧ l' = listener := by simpa using hheard'
  obtain ⟨hkind, rfl⟩ : e.kind = kind ∧ l = l' := by simpa using hheard
  -- nothing is heard twice
  have hfresh : .called e l ∉ before := by
    intro hagain
    rw [← List.singleton_append, heard_append, heard_append] at hnodup
    exact List.disjoint_of_nodup_append hnodup (mem_heard.mpr ⟨hagain, hkind⟩)
      (List.mem_append_left _ (mem_heard.mpr ⟨List.mem_singleton_self _, hkind⟩))
  have he : .emitted e ∈ before :=
    (h.called before e l after rfl).resolve_right (by simp)
  have he' : .emitted e' ∈ before := h.emitted_of_called (List.prefix_append _ _) hmem
  by_contra hge
  rcases Nat.eq_or_lt_of_le (Nat.not_lt.mp hge) with hnumber | hnumber
  · obtain rfl := h.emitted_inj (List.mem_append_left _ he) (List.mem_append_left _ he') hnumber
    exact hfresh hmem
  · -- the new message is older, so the listener has been called with it before the other one was
    -- emitted
    obtain ⟨first, rest, rfl⟩ := List.append_of_mem he'
    have hmem := List.mem_append_left (.called e l :: after) he
    rw [List.append_assoc, List.cons_append] at h hturns hmem
    have hfirst : .emitted e ∈ first := h.emitted_mem_before hmem hnumber
    exact hfresh (List.mem_append_left _ (hturns first e' _ rfl hkind' e hfirst hkind))

/-- `heard kind listener new = recorded kind new ↔ TakesTurns kind listener new`. -/
theorem heard_eq_iff : heard kind listener new = recorded kind new ↔
    TakesTurns kind listener new := by
  have hrecorded : (recorded kind new).Pairwise (·.number < ·.number) :=
    h.pairwise_emissions.filter _
  constructor
  · intro heq
    exact h.takesTurns hone hstays (heq ▸ hrecorded)
  · intro hturns
    refine List.Perm.eq_of_pairwise
      (fun e e' _ _ hlt hgt => ?_) (h.pairwise_heard hone hstays hturns) hrecorded
      (h.heard_perm_recorded hone hstays)
    omega

end

end Closed

end BusEvent

namespace NoticeBus

open BusEvent

/-- What has happened on a bus since it was in an earlier state. -/
def logSince (b' b : NoticeBus μ) : List (BusEvent μ) := b'.log.drop b.log.length

/-- A listener that is registered once for a kind when something is done with a bus, and stays so,
hears the messages of the kind that are emitted meanwhile, each of them once; the history holds them
in the order in which they are emitted. It hears them in that order just if each of them has reached
it before the next one is emitted. -/
theorem heard_eq_recorded_iff (behave : Behaviours μ) (limit : Nat) (setup main : Program μ)
    {kind : NoticeKind} {listener : String} {b b' : NoticeBus μ}
    (hb : (follow (run behave limit) setup {}).2 = b)
    (hb' : (follow (run behave limit) main b).2 = b') (hone : (b.listeners kind).count listener = 1)
    (hstays : Stays kind listener (b'.logSince b)) :
    b'.log = b.log ++ b'.logSince b ∧
      ((b'.history.drop b.history.length).filter (·.1 = kind)) =
        (recorded kind (b'.logSince b)).map (fun e => (e.kind, e.message)) ∧
      (heard kind listener (b'.logSince b)).Perm (recorded kind (b'.logSince b)) ∧
      (heard kind listener (b'.logSince b) = recorded kind (b'.logSince b) ↔
        TakesTurns kind listener (b'.logSince b)) := by
  -- what was set up before is coherent, which the main program starts from
  obtain ⟨old, hold⟩ := (keepsOrder_run behave limit).follow setup (b := {}) ⟨rfl, rfl⟩
  rw [hb] at hold
  obtain ⟨new, hnew⟩ := (keepsOrder_run behave limit).follow main hold.isCoherent
  rw [hb'] at hnew
  have hsince : b'.logSince b = new := by simp [logSince, hnew.log_eq]
  rw [hsince] at hstays ⊢
  rw [hold.isCoherent.listeners_eq] at hone
  refine ⟨hnew.log_eq, ?_, hnew.closed.heard_perm_recorded hone hstays,
    hnew.closed.heard_eq_iff hone hstays⟩
  have hkeeps : b.keepsHistory = true := hold.keepsHistory_eq
  have hhistory : b'.history = b.history ++ (emissions new).map fun e => (e.kind, e.message) := by
    rw [hnew.isCoherent.history_eq, hold.isCoherent.history_eq, hnew.keepsHistory_eq,
      hkeeps, hnew.log_eq]
    simp
  rw [hhistory, List.drop_left, List.filter_map]
  rfl

/-- A relay that takes itself off and answers what it hears; all other listeners do nothing. -/
def relayOnce : Listeners String := fun listener =>
  if listener = "relay" then { requests := [.off "log" "relay", .emit "log" "second"] } else {}

/-- With a relay before it, a listener is called with a second message before the first one has
reached it. -/
theorem not_takesTurns_relayOnce :
    ∃ b b' : NoticeBus String,
      (follow (run relayOnce.behave nestingLimit)
        (.script false [.on "log" "relay", .on "log" "screen"]) {}).2 = b ∧
        (follow (run relayOnce.behave nestingLimit) (.script false [.emit "log" "first"]) b).2 =
          b' ∧
        (b.listeners .log).count "screen" = 1 ∧ Stays .log "screen" (b'.logSince b) ∧
        ¬ TakesTurns .log "screen" (b'.logSince b) := by
  obtain ⟨b, hb⟩ : ∃ b, (follow (run relayOnce.behave nestingLimit)
    (.script false [.on "log" "relay", .on "log" "screen"]) {}).2 = b := ⟨_, rfl⟩
  obtain ⟨b', hb'⟩ : ∃ b', (follow (run relayOnce.behave nestingLimit)
    (.script false [.emit "log" "first"]) b).2 = b' := ⟨_, rfl⟩
  have hone : (b.listeners .log).count "screen" = 1 := by
    subst hb
    rfl
  have hlog : b'.logSince b = [.emitted ⟨0, .log, "first"⟩, .called ⟨0, .log, "first"⟩ "relay",
      .unregistered .log "relay", .emitted ⟨1, .log, "second"⟩,
      .called ⟨1, .log, "second"⟩ "screen",
      .ended ⟨1, .log, "second"⟩, .called ⟨0, .log, "first"⟩ "screen",
      .ended ⟨0, .log, "first"⟩] := by
    subst hb hb'
    rfl
  have hstays : Stays .log "screen" (b'.logSince b) := by
    rw [hlog]
    exact ⟨by simp, by simp⟩
  -- `heard_eq_recorded_iff` would make the two orders equal, and the log shows them
  refine ⟨b, b', hb, hb', hone, hstays, fun hturns => ?_⟩
  have heq :=
    (heard_eq_recorded_iff relayOnce.behave nestingLimit _ _ hb hb' hone hstays).2.2.2.mpr hturns
  rw [hlog] at heq
  cases heq

/-- A relay that answers the first message with another one; all other listeners do nothing. -/
def relayFirst : Behaviours String := fun listener message _ =>
  if listener = "relay" ∧ message = "first" then .ask (.emit "log" "second") fun _ _ =>
    .finish else .finish

/-- A listener that is registered once, and stays so, hears the messages in another order than the
one in which they are recorded, although nothing is done meanwhile but emitting messages. -/
theorem heard_ne_recorded_relayFirst :
    ∃ b b' : NoticeBus String,
      (follow (run relayFirst nestingLimit)
        (.script false [.on "log" "relay", .on "log" "screen"]) {}).2 = b ∧
        (follow (run relayFirst nestingLimit) (.script false [.emit "log" "first"]) b).2 = b' ∧
        (b.listeners .log).count "screen" = 1 ∧
        (∀ kind listener, Stays kind listener (b'.logSince b)) ∧
        b'.history = [(.log, "first"), (.log, "second")] ∧
        (heard .log "screen" (b'.logSince b)).map (·.message) = ["second", "first"] := by
  refine ⟨_, _, rfl, rfl, rfl, fun kind listener => ?_, rfl, rfl⟩
  have hlog : ∀ log : List (BusEvent String), log = [.emitted ⟨0, .log, "first"⟩,
      .called ⟨0, .log, "first"⟩ "relay", .emitted ⟨1, .log, "second"⟩,
      .called ⟨1, .log, "second"⟩ "relay",
      .called ⟨1, .log, "second"⟩ "screen", .ended ⟨1, .log, "second"⟩,
      .called ⟨0, .log, "first"⟩ "screen",
      .ended ⟨0, .log, "first"⟩] → Stays kind listener log := by
    rintro log rfl
    exact ⟨by simp, by simp⟩
  exact hlog _ rfl

end NoticeBus

end Restyle
