import EthercatSimulator.Base.Log
import EthercatSimulator.Diagnostics.FaultLaws

/-! The log of the guard: the life of each fault, from its detection to its resolution. -/

namespace EthercatSimulator.Diagnostics

open Base

namespace Diagnostic

def requiresRestart (d : Diagnostic) : Bool := d.context.any (·.restartRequired)

def isAcknowledged (d : Diagnostic) : Bool := d.acknowledgedAt.isSome

def isEscalated (d : Diagnostic) : Bool := d.context.any (·.executionFailure.isSome)

end Diagnostic

/-- The lines about faults; warnings are alarms. -/
def faultLines (printed : List LogLine) : List LogLine :=
  printed.filter fun line => line.diagnostic.level = .fault

def actionsIn (lines : List LogLine) (id : Nat) : List Action :=
  (lines.filter fun line => line.diagnostic.diagnosticId = id).map (·.action)

/-- What was logged about one fault, in order. -/
def actionsOf (printed : List LogLine) (id : Nat) : List Action := actionsIn (faultLines printed) id

def resolvedCourse : List Action := [.detected, .acknowledged, .resolved]

/-- How far a fault can have come. -/
def courses : List (List Action) := [
  [], [.detected], [.detected, .escalated], [.detected, .acknowledged],
  [.detected, .acknowledged, .escalated], resolvedCourse]

/-- A fault is detected after every fault before it was resolved. -/
def CreatedInTurn (before : List LogLine) (line : LogLine) : Prop :=
  line.action = .detected → ∀ l ∈ before, actionsIn before l.diagnostic.diagnosticId = resolvedCourse

/-- An escalated fault requires a restart, which it did not do before. -/
def EscalatedOnce (before : List LogLine) (line : LogLine) : Prop :=
  line.action = .escalated → line.diagnostic.requiresRestart = true ∧
    ∀ l ∈ before, l.diagnostic.diagnosticId = line.diagnostic.diagnosticId →
      l.diagnostic.requiresRestart = false

namespace AxisFault

/-- A further cause leaves the active fault in place, and is logged if it is the first one that
requires a restart. -/
def RepeatsQuietly (g : AxisFault) : Prop :=
  ∀ now code detail restart d, g.fault = some d →
    (g.detect now code detail restart).fault.map (·.diagnosticId) = some d.diagnosticId ∧
      ((g.detect now code detail restart).printed = g.printed ∨
        restart = true ∧ d.requiresRestart = false ∧
          ∃ d', (g.detect now code detail restart).printed = g.printed ++ [⟨.escalated, d'⟩])

/-- The life cycle of the faults in the log. -/
structure Orderly (g : AxisFault) : Prop where
  course : ∀ id, actionsOf g.printed id ∈ courses
  active : ∀ id, (.detected ∈ actionsOf g.printed id ∧ .resolved ∉ actionsOf g.printed id) ↔
    g.fault.map (·.diagnosticId) = some id
  created : EachAfter CreatedInTurn (faultLines g.printed)
  escalated : EachAfter EscalatedOnce (faultLines g.printed)
  restart : ∀ line ∈ faultLines g.printed, line.diagnostic.requiresRestart = true →
    .resolved ∉ actionsOf g.printed line.diagnostic.diagnosticId
  repeats : g.RepeatsQuietly

/-- The fault the guard holds, and what was logged about it. -/
structure Active (g : AxisFault) (d : Diagnostic) : Prop where
  level : d.level = .fault
  context : d.context.isSome = true
  unresolved : d.resolvedAt = none
  restart : d.requiresRestart = g.restartRequired
  escalated : d.isEscalated = true → g.restartRequired = true
  verified : g.phase = .verifyReset → d.isAcknowledged = true ∧ g.restartRequired = false
  actions : actionsOf g.printed d.diagnosticId = .detected ::
    ((if d.isAcknowledged then [.acknowledged] else []) ++ if d.isEscalated then [.escalated] else [])

/-- What the guard's own state says about its log. -/
structure Chronicle (g : AxisFault) : Prop where
  issued : ∀ line ∈ faultLines g.printed, line.diagnostic.diagnosticId < g.issued
  closed : ∀ id, g.fault.map (·.diagnosticId) ≠ some id →
    actionsOf g.printed id = [] ∨ actionsOf g.printed id = resolvedCourse
  active : ∀ d, g.fault = some d → g.Active d
  unlatched : g.fault = none → g.restartRequired = false
  created : EachAfter CreatedInTurn (faultLines g.printed)
  escalated : EachAfter EscalatedOnce (faultLines g.printed)
  restart : ∀ line ∈ faultLines g.printed, line.diagnostic.requiresRestart = true →
    g.restartRequired = true ∧ g.fault.map (·.diagnosticId) = some line.diagnostic.diagnosticId
  warning : ∀ d, g.warning = some d → d.level = .alarm

end AxisFault

/-! One more line. -/

section Print

variable {printed : List LogLine} {line : LogLine}

theorem faultLines_alarm (h : line.diagnostic.level = .alarm) :
    faultLines (printed ++ [line]) = faultLines printed := by
  simp [faultLines, h]

theorem faultLines_fault (h : line.diagnostic.level = .fault) :
    faultLines (printed ++ [line]) = faultLines printed ++ [line] := by
  simp [faultLines, h]

theorem actionsIn_append (xs ys : List LogLine) (id : Nat) :
    actionsIn (xs ++ ys) id = actionsIn xs id ++ actionsIn ys id := by
  simp [actionsIn]

theorem actionsOf_other (h : line.diagnostic.level = .fault) {id : Nat}
    (hid : line.diagnostic.diagnosticId ≠ id) : actionsOf (printed ++ [line]) id = actionsOf printed id := by
  simp [actionsOf, faultLines_fault h, actionsIn, hid]

theorem actionsOf_same (h : line.diagnostic.level = .fault) :
    actionsOf (printed ++ [line]) line.diagnostic.diagnosticId =
      actionsOf printed line.diagnostic.diagnosticId ++ [line.action] := by
  simp [actionsOf, faultLines_fault h, actionsIn]

theorem actionsOf_ne_nil (h : line ∈ faultLines printed) :
    actionsOf printed line.diagnostic.diagnosticId ≠ [] := by
  simp only [actionsOf, actionsIn, ne_eq, List.map_eq_nil_iff, List.filter_eq_nil_iff, decide_eq_true_eq]
  exact fun hnone => hnone line h rfl

end Print

namespace AxisFault

variable {g g' : AxisFault} {d d' : Diagnostic}

/-! What one line more makes of the log. -/

/-- No fault is logged. -/
theorem Chronicle.congr (h : g.Chronicle) (hfault : g'.fault = g.fault)
    (hlines : faultLines g'.printed = faultLines g.printed) (hissued : g.issued ≤ g'.issued)
    (hwarning : ∀ d, g'.warning = some d → d.level = .alarm)
    (hrestart : g'.restartRequired = g.restartRequired)
    (hverified : ∀ d, g.fault = some d → g'.phase = .verifyReset →
      d.isAcknowledged = true ∧ g.restartRequired = false) : g'.Chronicle := by
  have hactions (id) : actionsOf g'.printed id = actionsOf g.printed id := by
    rw [actionsOf, hlines, actionsOf]
  constructor
  · rw [hlines]
    exact fun line hline => (h.issued line hline).trans_le hissued
  · rw [hfault]
    intro id hne
    rw [hactions]
    exact h.closed id hne
  · rw [hfault]
    intro d hd
    obtain ⟨hlevel, hcontext, hunresolved, hr, hescalated, -, hcourse⟩ := h.active d hd
    refine ⟨hlevel, hcontext, hunresolved, ?_, ?_, ?_, ?_⟩
    · rw [hrestart, hr]
    · rw [hrestart]
      exact hescalated
    · rw [hrestart]
      exact hverified d hd
    · rw [hactions, hcourse]
  · rw [hfault, hrestart]
    exact h.unlatched
  · rw [hlines]
    exact h.created
  · rw [hlines]
    exact h.escalated
  · rw [hlines, hrestart, hfault]
    exact h.restart
  · exact hwarning

theorem Chronicle.closed_all (h : g.Chronicle) (hfault : g.fault = none) {line : LogLine}
    (hline : line ∈ faultLines g.printed) :
    actionsOf g.printed line.diagnostic.diagnosticId = resolvedCourse :=
  (h.closed _ (by rw [hfault]; nofun)).resolve_left (actionsOf_ne_nil hline)

/-- No line requires a restart as long as the guard does not. -/
theorem Chronicle.no_restart (h : g.Chronicle) (hrestart : g.restartRequired = false) {line : LogLine}
    (hline : line ∈ faultLines g.printed) : line.diagnostic.requiresRestart = false := by
  by_contra hne
  have hr := (h.restart line hline (by simpa using hne)).1
  rw [hrestart] at hr
  cases hr

theorem Chronicle.active_issued (h : g.Chronicle) (hfault : g.fault = some d) :
    d.diagnosticId < g.issued := by
  have hne : actionsOf g.printed d.diagnosticId ≠ [] := by
    rw [(h.active d hfault).actions]
    nofun
  obtain ⟨line, hline, heq⟩ : ∃ line ∈ faultLines g.printed,
      line.diagnostic.diagnosticId = d.diagnosticId := by
    simpa [actionsOf, actionsIn] using hne
  rw [← heq]
  exact h.issued line hline

/-- A fault begins. -/
theorem Chronicle.detected (h : g.Chronicle) (hfault : g.fault = none) (hfault' : g'.fault = some d)
    (hprinted : g'.printed = g.printed ++ [⟨.detected, d⟩]) (hid : d.diagnosticId = g.issued)
    (hissued : g'.issued = g.issued + 1) (hwarning : g'.warning = g.warning)
    (hrestart : d.requiresRestart = g'.restartRequired) (hlevel : d.level = .fault)
    (hcontext : d.context.isSome = true) (hunresolved : d.resolvedAt = none)
    (hacknowledged : d.isAcknowledged = false) (hescalated : d.isEscalated = false)
    (hphase : g'.phase ≠ .verifyReset) : g'.Chronicle := by
  have hlines : faultLines g'.printed = faultLines g.printed ++ [⟨.detected, d⟩] := by
    rw [hprinted]
    exact faultLines_fault hlevel
  have hnew : actionsOf g.printed d.diagnosticId = [] := by
    rw [hid]
    simp only [actionsOf, actionsIn, List.map_eq_nil_iff, List.filter_eq_nil_iff, decide_eq_true_eq]
    exact fun line hline heq => (h.issued line hline).ne heq
  have hactions : actionsOf g'.printed d.diagnosticId = [.detected] := by
    have hsame : actionsOf (g.printed ++ [⟨.detected, d⟩]) d.diagnosticId =
        actionsOf g.printed d.diagnosticId ++ [.detected] := actionsOf_same hlevel
    rw [hprinted, hsame, hnew]
    rfl
  constructor
  · rw [hlines, hissued]
    intro line hline
    rcases List.mem_append.mp hline with hline | hline
    · exact Nat.lt_succ_of_lt (h.issued line hline)
    · rw [List.mem_singleton.mp hline]
      exact hid ▸ Nat.lt_succ_self _
  · rw [hprinted, hfault']
    intro id hne
    rw [actionsOf_other hlevel fun heq => hne (congrArg some heq)]
    exact h.closed id (by rw [hfault]; nofun)
  · rw [hfault']
    rintro _ ⟨⟩
    refine ⟨hlevel, hcontext, hunresolved, hrestart, ?_, fun hp => absurd hp hphase, ?_⟩
    · rw [hescalated]
      nofun
    · rw [hactions, hacknowledged, hescalated]
      rfl
  · rw [hfault']
    nofun
  · rw [hlines]
    exact h.created.concat fun _ line hline => h.closed_all hfault hline
  · rw [hlines]
    exact h.escalated.concat nofun
  · rw [hlines, hfault']
    intro line hline hr
    rcases List.mem_append.mp hline with hline | hline
    · rw [h.no_restart (h.unlatched hfault) hline] at hr
      cases hr
    · rw [List.mem_singleton.mp hline] at hr ⊢
      exact ⟨hrestart ▸ hr, rfl⟩
  · rw [hwarning]
    exact h.warning

/-- The active fault is acknowledged or escalated. -/
theorem Chronicle.noted (h : g.Chronicle) (hfault : g.fault = some d) (hfault' : g'.fault = some d')
    {action : Action} (haction : action ≠ .detected)
    (hprinted : g'.printed = g.printed ++ [⟨action, d'⟩]) (hid : d'.diagnosticId = d.diagnosticId)
    (hissued : g'.issued = g.issued) (hwarning : g'.warning = g.warning)
    (hrestart : g.restartRequired = false) (hescalated : action = .escalated → d'.requiresRestart = true)
    (hactive : g'.Active d') : g'.Chronicle := by
  have hlevel := hactive.level
  have hlines : faultLines g'.printed = faultLines g.printed ++ [⟨action, d'⟩] := by
    rw [hprinted]
    exact faultLines_fault hlevel
  constructor
  · rw [hlines, hissued]
    intro line hline
    rcases List.mem_append.mp hline with hline | hline
    · exact h.issued line hline
    · rw [List.mem_singleton.mp hline]
      change d'.diagnosticId < _
      rw [hid]
      exact h.active_issued hfault
  · rw [hprinted, hfault']
    intro id hne
    have hother : d'.diagnosticId ≠ id := fun heq => hne (congrArg some heq)
    rw [actionsOf_other hlevel hother]
    exact h.closed id (by rw [hfault, Option.map_some, ← hid]; exact hne)
  · rw [hfault']
    rintro _ ⟨⟩
    exact hactive
  · rw [hfault']
    nofun
  · rw [hlines]
    exact h.created.concat fun heq => absurd heq haction
  · rw [hlines]
    exact h.escalated.concat fun heq =>
      ⟨hescalated heq, fun line hline _ => h.no_restart hrestart hline⟩
  · rw [hlines, hfault']
    intro line hline hr
    rcases List.mem_append.mp hline with hline | hline
    · rw [h.no_restart hrestart hline] at hr
      cases hr
    · rw [List.mem_singleton.mp hline] at hr ⊢
      exact ⟨hactive.restart ▸ hr, rfl⟩
  · rw [hwarning]
    exact h.warning

/-- The active fault ends. -/
theorem Chronicle.resolved (h : g.Chronicle) (hfault : g.fault = some d) (hfault' : g'.fault = none)
    (hprinted : g'.printed = g.printed ++ [⟨.resolved, d'⟩]) (hid : d'.diagnosticId = d.diagnosticId)
    (hlevel : d'.level = .fault) (hissued : g'.issued = g.issued) (hwarning : g'.warning = g.warning)
    (hrestart : g.restartRequired = false) (hrestart' : g'.restartRequired = false)
    (hquiet : d'.requiresRestart = d.requiresRestart) (hacknowledged : d.isAcknowledged = true) :
    g'.Chronicle := by
  have hactive := h.active d hfault
  have hlines : faultLines g'.printed = faultLines g.printed ++ [⟨.resolved, d'⟩] := by
    rw [hprinted]
    exact faultLines_fault hlevel
  have hescalated : d.isEscalated = false := by
    by_contra hne
    have hr := hactive.escalated (by simpa using hne)
    rw [hrestart] at hr
    cases hr
  have hactions : actionsOf g'.printed d.diagnosticId = resolvedCourse := by
    have hsame : actionsOf (g.printed ++ [⟨.resolved, d'⟩]) d'.diagnosticId =
        actionsOf g.printed d'.diagnosticId ++ [.resolved] := actionsOf_same hlevel
    rw [hprinted, ← hid, hsame, hid, hactive.actions, hacknowledged, hescalated]
    rfl
  have hrestarts : ∀ line ∈ faultLines g'.printed, line.diagnostic.requiresRestart = false := by
    rw [hlines]
    intro line hline
    rcases List.mem_append.mp hline with hline | hline
    · exact h.no_restart hrestart hline
    · rw [List.mem_singleton.mp hline]
      exact hquiet.trans (hactive.restart.trans hrestart)
  constructor
  · rw [hlines, hissued]
    intro line hline
    rcases List.mem_append.mp hline with hline | hline
    · exact h.issued line hline
    · rw [List.mem_singleton.mp hline]
      change d'.diagnosticId < _
      rw [hid]
      exact h.active_issued hfault
  · intro id _
    by_cases heq : d.diagnosticId = id
    · rw [← heq]
      exact .inr hactions
    · have hother : d'.diagnosticId ≠ id := by rw [hid]; exact heq
      rw [hprinted, actionsOf_other hlevel hother]
      refine h.closed id ?_
      rw [hfault]
      exact fun hsome => heq (Option.some_inj.mp hsome)
  · intro d₁ hd₁
    rw [hfault'] at hd₁
    cases hd₁
  · exact fun _ => hrestart'
  · rw [hlines]
    refine h.created.concat fun haction => ?_
    cases haction
  · rw [hlines]
    refine h.escalated.concat fun haction => ?_
    cases haction
  · intro line hline hr
    rw [hrestarts line hline] at hr
    cases hr
  · rw [hwarning]
    exact h.warning

/-! The operations of the guard. -/

theorem Active.not_escalated (h : g.Active d) (hrestart : g.restartRequired = false) :
    d.isEscalated = false := by
  by_contra hne
  have hr := h.escalated (by simpa using hne)
  rw [hrestart] at hr
  cases hr

theorem Chronicle.detect (h : g.Chronicle) (now : Time) (code : Code) (detail : String) (restart : Bool) :
    (g.detect now code detail restart).Chronicle := by
  have hphase : Phase.fault ≠ Phase.verifyReset := by decide
  unfold AxisFault.detect latch
  cases hfault : g.fault with
  | none =>
    have hrestart := h.unlatched hfault
    refine h.detected hfault rfl rfl rfl rfl rfl ?_ rfl rfl rfl rfl rfl hphase
    change restart = (g.restartRequired || restart)
    rw [hrestart, Bool.false_or]
  | some d =>
    have hactive := h.active d hfault
    dsimp only
    split
    · rename_i hfirst
      rw [Bool.and_eq_true, Bool.not_eq_true'] at hfirst
      obtain ⟨hrequired, hrestart⟩ := hfirst
      obtain ⟨c, hc⟩ := Option.isSome_iff_exists.mp hactive.context
      have hnow : (d.escalate detail).requiresRestart = true := by
        simp [Diagnostic.escalate, Diagnostic.requiresRestart, hc, Context.escalate]
      have hnoted : (d.escalate detail).isEscalated = true := by
        simp [Diagnostic.escalate, Diagnostic.isEscalated, hc, Context.escalate]
      have hsame : actionsOf (g.printed ++ [⟨.escalated, d.escalate detail⟩]) d.diagnosticId =
          actionsOf g.printed d.diagnosticId ++ [.escalated] :=
        actionsOf_same hactive.level
      refine h.noted hfault rfl (by decide) rfl rfl rfl rfl hrestart (fun _ => hnow) ?_
      refine ⟨hactive.level, ?_, hactive.unresolved, ?_, ?_, fun hp => absurd hp hphase, ?_⟩
      · simp [Diagnostic.escalate, hc]
      · rw [hnow, hrequired]
        exact (Bool.or_true _).symm
      · intro _
        rw [hrequired]
        exact Bool.or_true _
      · change actionsOf (g.printed ++ [⟨.escalated, d.escalate detail⟩]) d.diagnosticId = _
        rw [hsame, hactive.actions, hactive.not_escalated hrestart, hnoted]
        change Action.detected :: (_ ++ []) ++ [.escalated] = .detected :: (_ ++ [.escalated])
        rw [List.append_nil, List.cons_append]
        rfl
    · rename_i hlater
      refine h.congr hfault.symm rfl le_rfl h.warning ?_ fun _ _ hp => absurd hp hphase
      change (g.restartRequired || restart) = g.restartRequired
      cases hrequired : restart <;> simp_all

/-- A reset may clear the fault. -/
structure Cleared (g : AxisFault) : Prop where
  restartRequired : g.restartRequired = false
  acknowledged : ∀ d, g.fault = some d → d.isAcknowledged = true

theorem Chronicle.cleared (h : g.Chronicle) (hphase : g.phase = .verifyReset) : g.Cleared := by
  cases hfault : g.fault with
  | none =>
    refine ⟨h.unlatched hfault, fun d hd => ?_⟩
    rw [hfault] at hd
    cases hd
  | some d =>
    obtain ⟨hacknowledged, hrestart⟩ := (h.active d hfault).verified hphase
    refine ⟨hrestart, ?_⟩
    rw [hfault]
    rintro _ ⟨⟩
    exact hacknowledged

theorem Chronicle.acknowledges (h : g.Chronicle) (hfault : g.fault = some d)
    (hrestart : g.restartRequired = false) (hphase : g.phase ≠ .verifyReset) (now : Time) :
    (g.acknowledgeFault d now).Chronicle ∧ (g.acknowledgeFault d now).Cleared := by
  have hactive := h.active d hfault
  unfold acknowledgeFault Diagnostic.acknowledge
  dsimp only
  split
  · rename_i hnone
    have hbefore : d.isAcknowledged = false := by rw [Diagnostic.isAcknowledged, hnone]; rfl
    refine ⟨?_, hrestart, ?_⟩
    · refine h.noted hfault rfl (by decide) rfl rfl rfl rfl hrestart (fun heq => by cases heq) ?_
      refine ⟨hactive.level, hactive.context, hactive.unresolved, hactive.restart, hactive.escalated,
        fun hp => absurd hp hphase, ?_⟩
      have hsame : ∀ d' : Diagnostic, d'.level = .fault → actionsOf (g.printed ++ [⟨.acknowledged, d'⟩])
          d'.diagnosticId = actionsOf g.printed d'.diagnosticId ++ [.acknowledged] :=
        fun d' hlevel => actionsOf_same hlevel
      refine (hsame { d with acknowledgedAt := some now } hactive.level).trans ?_
      have hescalated := hactive.not_escalated hrestart
      rw [hactive.actions, hbefore, hescalated]
      change _ = Action.detected :: ([.acknowledged] ++ if d.isEscalated = true then _ else _)
      rw [hescalated]
      rfl
    · rintro _ ⟨⟩
      rfl
  · rename_i hsome
    refine ⟨h.congr hfault.symm rfl le_rfl h.warning rfl fun d _ hp => absurd hp hphase, hrestart, ?_⟩
    rintro _ ⟨⟩
    exact Option.isSome_iff_ne_none.mpr hsome

/-- No fault is logged, and the guard does not come to verify a reset. -/
theorem Chronicle.prepared (h : g.Chronicle) (hfault : g'.fault = g.fault) (hprinted : g'.printed = g.printed)
    (hissued : g'.issued = g.issued) (hwarning : g'.warning = g.warning)
    (hrestart : g'.restartRequired = g.restartRequired)
    (hphase : g'.phase = .verifyReset → g.phase = .verifyReset) : g'.Chronicle := by
  refine h.congr hfault (congrArg faultLines hprinted) hissued.ge ?_ hrestart fun d hd hp => ?_
  · rw [hwarning]
    exact h.warning
  · exact (h.active d hd).verified (hphase hp)

theorem Chronicle.prepare (h : g.Chronicle) {now : Time} {payload : Bytes}
    {r : Except Exc (Option Bytes × Bool)} (hrun : prepare now payload g = (r, g')) :
    g'.Chronicle ∧ ∀ frame, r = .ok (frame, true) → g'.Cleared := by
  have hheld {g'' : AxisFault} (hg : g'' = { g with previousCw := firstWord payload }) :
      g''.Chronicle := by
    rw [hg]
    exact h.prepared rfl rfl rfl rfl rfl id
  cases hp : g.phase with
  | normal =>
    simp only [AxisFault.prepare, hp] at hrun
    cases hrun
    exact ⟨hheld (by rw [← hp]), fun _ hr => by cases hr⟩
  | verifyReset =>
    simp only [AxisFault.prepare, hp] at hrun
    split at hrun
    · cases hrun
      exact ⟨hheld (by rw [← hp]), fun _ hr => by cases hr⟩
    · cases hrun
      have hcleared := h.cleared hp
      exact ⟨hheld (by rw [← hp]), fun _ _ => ⟨hcleared.restartRequired, hcleared.acknowledged⟩⟩
  | fault =>
    simp only [AxisFault.prepare, hp] at hrun
    split at hrun
    · cases hrun
      exact ⟨hheld (by rw [← hp]), fun _ hr => by cases hr⟩
    · rename_i hrestart
      rw [Bool.not_eq_true] at hrestart
      split at hrun
      · cases hrun
        exact ⟨hheld (by rw [← hp]), fun _ hr => by cases hr⟩
      · rename_i d hd
        have hg := hheld rfl
        split at hrun
        · cases hrun
          have hnot : Phase.fault ≠ Phase.verifyReset := by decide
          have hack := hg.acknowledges hd hrestart (by rw [← hp] at hnot; exact hnot) now
          rw [← hp]
          exact ⟨hack.1, fun _ _ => hack.2⟩
        · split at hrun
          · cases hrun
            exact ⟨hheld (by rw [← hp]), fun _ hr => by cases hr⟩
          · cases hrun
            exact ⟨hheld (by rw [← hp]), fun _ hr => by cases hr⟩
  | shutdown =>
    simp only [AxisFault.prepare, hp] at hrun
    split at hrun
    · cases hrun
      exact ⟨h.prepared rfl rfl rfl rfl rfl (fun hverify => by cases hverify), fun _ hr => by cases hr⟩
    · cases hrun
      exact ⟨hheld (by rw [← hp]), fun _ hr => by cases hr⟩
  | switchOn =>
    simp only [AxisFault.prepare, hp] at hrun
    split at hrun
    · cases hrun
      exact ⟨h.prepared rfl rfl rfl rfl rfl (fun hverify => by cases hverify), fun _ hr => by cases hr⟩
    · cases hrun
      exact ⟨hheld (by rw [← hp]), fun _ hr => by cases hr⟩
  | enable =>
    simp only [AxisFault.prepare, hp] at hrun
    split at hrun
    · split at hrun
      · cases hrun
        exact ⟨hheld (by rw [← hp]), fun _ hr => by cases hr⟩
      · split at hrun
        · cases hrun
          exact ⟨h.prepared rfl rfl rfl rfl rfl (fun hverify => by cases hverify), fun _ hr => by cases hr⟩
        · cases hrun
          exact ⟨hheld (by rw [← hp]), fun _ hr => by cases hr⟩
    · cases hrun
      exact ⟨hheld (by rw [← hp]), fun _ hr => by cases hr⟩

theorem Chronicle.updateFault (h : g.Chronicle) (now : Time) (sw : Nat) {resetting : Bool}
    (hcleared : resetting = true → g.Cleared) : (g.updateFault now sw resetting).Chronicle := by
  unfold AxisFault.updateFault
  split
  · exact h.detect now _ _ _
  · cases hfault : g.fault with
    | none => exact h
    | some d =>
      dsimp only
      split
      · rename_i hr
        obtain ⟨hrestart, hacknowledged⟩ := hcleared hr
        split
        · have hactive := h.active d hfault
          rw [resolveFault, if_pos hactive.unresolved]
          have hresolved : d.resolve now = { d with resolvedAt := some now } := by
            rw [Diagnostic.resolve, if_pos hactive.unresolved]
          rw [hresolved]
          exact h.resolved hfault rfl rfl rfl hactive.level rfl rfl hrestart hrestart rfl
            (hacknowledged d hfault)
        · refine h.congr hfault.symm rfl le_rfl h.warning rfl fun d hd _ => ?_
          exact ⟨hacknowledged d hd, hrestart⟩
      · exact h

theorem Chronicle.updateWarning (h : g.Chronicle) (now : Time) (sw : Nat) :
    (g.updateWarning now sw).Chronicle := by
  unfold AxisFault.updateWarning
  cases hwarning : g.warning with
  | none =>
    dsimp only
    split
    · refine h.congr rfl (faultLines_alarm rfl) (Nat.le_succ _) ?_ rfl fun d hd => (h.active d hd).verified
      rintro _ ⟨⟩
      rfl
    · exact h
  | some d =>
    have hlevel := h.warning d hwarning
    dsimp only
    split
    · exact h
    · split
      · have hresolved : (d.resolve now).level = .alarm := by
          unfold Diagnostic.resolve
          split <;> exact hlevel
        refine h.congr rfl (faultLines_alarm hresolved) le_rfl ?_ rfl fun d hd => (h.active d hd).verified
        rintro _ ⟨⟩
      · refine h.congr rfl rfl le_rfl ?_ rfl fun d hd => (h.active d hd).verified
        rintro _ ⟨⟩

theorem Chronicle.accept (h : g.Chronicle) {now : Time} {output : Bytes} {resetting : Bool}
    (hcleared : resetting = true → g.Cleared) (haccept : g.accept now output resetting = .ok g') :
    g'.Chronicle := by
  unfold AxisFault.accept at haccept
  split at haccept
  · cases haccept
  · cases haccept
    have hshown : AxisFault.Chronicle
        { g with last := output, lastValidAt := some now, feedbackValid := true } :=
      h.prepared rfl rfl rfl rfl rfl id
    refine (hshown.updateFault now (firstWord output) fun hr => ?_).updateWarning now _
    exact ⟨(hcleared hr).restartRequired, (hcleared hr).acknowledged⟩

/-! The life cycle. -/

theorem Active.actions_mem (h : g.Active d) : actionsOf g.printed d.diagnosticId ∈ courses := by
  rw [h.actions]
  cases d.isAcknowledged <;> cases d.isEscalated <;> decide

theorem Active.open (h : g.Active d) :
    .detected ∈ actionsOf g.printed d.diagnosticId ∧ .resolved ∉ actionsOf g.printed d.diagnosticId := by
  rw [h.actions]
  cases d.isAcknowledged <;> cases d.isEscalated <;> decide

theorem Chronicle.repeats (h : g.Chronicle) : g.RepeatsQuietly := by
  intro now code detail restart d hfault
  have hrestart := (h.active d hfault).restart
  unfold AxisFault.detect latch
  rw [hfault]
  dsimp only
  split
  · rename_i hfirst
    rw [Bool.and_eq_true, Bool.not_eq_true', ← hrestart] at hfirst
    exact ⟨rfl, .inr ⟨hfirst.1, hfirst.2, _, rfl⟩⟩
  · exact ⟨rfl, .inl rfl⟩

theorem Chronicle.orderly (h : g.Chronicle) : g.Orderly where
  course id := by
    by_cases hid : g.fault.map (·.diagnosticId) = some id
    · obtain ⟨d, hd, rfl⟩ := Option.map_eq_some_iff.mp hid
      exact (h.active d hd).actions_mem
    · cases h.closed id hid with
      | inl hnone => rw [hnone]; decide
      | inr hdone => rw [hdone]; decide
  active id := by
    constructor
    · intro hopen
      by_contra hid
      cases h.closed id hid with
      | inl hnone => rw [hnone] at hopen; exact absurd hopen.1 (by decide)
      | inr hdone => rw [hdone] at hopen; exact absurd hopen.2 (by decide)
    · intro hid
      obtain ⟨d, hd, rfl⟩ := Option.map_eq_some_iff.mp hid
      exact (h.active d hd).open
  created := h.created
  escalated := h.escalated
  restart line hline hrestart := by
    obtain ⟨d, hd, heq⟩ := Option.map_eq_some_iff.mp (h.restart line hline hrestart).2
    rw [← heq]
    exact (h.active d hd).open.2
  repeats := h.repeats

theorem chronicle_initial {g : AxisFault} (hfault : g.fault = none) (hwarning : g.warning = none)
    (hrestart : g.restartRequired = false) (hprinted : g.printed = []) : g.Chronicle where
  issued := by simp [hprinted, faultLines]
  closed := by simp [hprinted, faultLines, actionsOf, actionsIn]
  active := by simp [hfault]
  unlatched _ := hrestart
  created := by rw [hprinted]; exact .nil
  escalated := by rw [hprinted]; exact .nil
  restart := by simp [hprinted, faultLines]
  warning := by simp [hwarning]

end AxisFault

end EthercatSimulator.Diagnostics
