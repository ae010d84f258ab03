import EthercatSimulator.Behaviour.UpdateLaws

/-! What an update reports: the statusword it publishes, and the exceptions it raises. -/

namespace EthercatSimulator.Behaviour

open Base Profile Diagnostics PyFloat

namespace Servo

theorem flag_and {bit mask : Nat} (h : bit &&& mask = 0) (condition : Bool) (word : Nat) :
    flag condition bit word &&& mask = word &&& mask := by
  unfold flag
  split
  · rw [Nat.and_or_distrib_right, h, Nat.or_zero]
  · rfl

theorem flag_lt {n bit word : Nat} (hbit : bit < 2 ^ n) (hword : word < 2 ^ n) (condition : Bool) :
    flag condition bit word < 2 ^ n := by
  unfold flag
  split
  · exact Nat.or_lt_two_pow hword hbit
  · exact hword

variable {F : Type} [PyFloat F] {s : Servo F}

theorem publishedStatusword_lt (s : Servo F) (mode : Int) : s.publishedStatusword mode < 2 ^ 16 := by
  have hstate : s.sm.statusword < 2 ^ 16 := by cases s.sm <;> decide
  unfold publishedStatusword
  iterate 7 refine flag_lt (by decide) ?_ _
  exact hstate

/-- The bits of the drive state are those of the state machine. -/
theorem publishedStatusword_and (h : s.homingError = false) (mode : Int) :
    s.publishedStatusword mode &&& 0x6f = s.sm.statusword := by
  have hstate : s.sm.statusword &&& 0x6f = s.sm.statusword := by cases s.sm <;> decide
  have hquiet : ∀ word, flag (mode = 6 && s.homingError) 0x8 word = word := by
    intro word
    rw [h, Bool.and_false]
    rfl
  unfold publishedStatusword
  dsimp only
  rw [hquiet]
  iterate 6 rw [flag_and (by decide)]
  exact hstate

/-- The virtual servo has no fault of its own, and its dictionary shows the state it is in. -/
structure Faultless (s : Servo F) : Prop where
  sm : s.sm ≠ .fault
  homingError : s.homingError = false
  statusword : ∃ w : Nat, s.od Key.statusword = .int w ∧ w < 2 ^ 16 ∧ w &&& 0x6f = s.sm.statusword

theorem construct_faultless (mode : AxisMode) : (construct mode : Servo F).Faultless := by
  have hsm : (construct mode : Servo F).sm = .switchOnDisabled := rfl
  exact ⟨by rw [hsm]; decide, rfl, 64, rfl, by decide, by rw [hsm]; decide⟩

theorem publish_faultless (hsm : s.sm ≠ .fault) (herror : s.homingError = false) (controlword : Nat)
    (mode : Int) : (s.publish controlword mode).Faultless where
  sm := hsm
  homingError := herror
  statusword := ⟨s.publishedStatusword mode, s.write_od_same Key.statusword _,
    s.publishedStatusword_lt mode, publishedStatusword_and herror mode⟩

theorem update_faultless (h : s.Faultless) (hok : (modelUpdate s).1 = .ok ()) :
    (modelUpdate s).2.Faultless := by
  obtain ⟨q, hdriven, hpublish, _⟩ := s.modelUpdate_post
  have hs := s.started_spec
  have herror : ∀ b : Bool, ¬ b = true → b = false := by decide
  rw [hpublish hok]
  apply publish_faultless
  · rw [hdriven.sm, hs.sm]
    exact CiA402State.process_ne_fault h.sm _
  · refine herror _ fun hq => ?_
    have := hs.homingError (hdriven.homingError hq)
    rw [h.homingError] at this
    cases this

/-! The motion laws raise what float arithmetic raises, and never a rejection. -/

/-- Not a rejection by the device. -/
abbrev Unexpected (e : Exc) : Prop := e.isDeviceRejected = false

theorem floatToInt_unexpected {x : F} {e : Exc} (h : floatToInt x = .error e) : Unexpected e := by
  unfold floatToInt at h
  split at h <;> cases h <;> rfl

theorem cyclesIn_unexpected {x y : F} {e : Exc} (h : cyclesIn x y = .error e) : Unexpected e := by
  unfold cyclesIn floatDiv at h
  split at h
  · cases h
    rfl
  · change floatToInt (x / y) >>= _ = _ at h
    match hn : floatToInt (x / y) with
    | .ok n => rw [hn] at h; cases h
    | .error e' =>
      rw [hn] at h
      cases h
      exact floatToInt_unexpected hn

theorem stoppingDistance_unexpected {e : Exc} (h : s.stoppingDistance = .error e) : Unexpected e := by
  unfold stoppingDistance at h
  dsimp only at h
  split at h
  · split at h <;> cases h
    rfl
  · cases h

theorem updateTargetReached_raises :
    (updateTargetReached : PyM (Servo F) Unit).Raises Unexpected := by
  refine .bind (Exec.raises_modify _) fun _ => .bind Exec.raises_get fun s => ?_
  exact .bind (Exec.raises_ofExcept fun _ => cyclesIn_unexpected) fun _ => Exec.raises_modify _

theorem processHoming_raises : (processHoming : PyM (Servo F) Unit).Raises Unexpected := by
  refine .bind Exec.raises_get fun s => .when _ (.bind (.when _ ?_) fun _ => Exec.raises_modify _)
  refine .bind (Exec.raises_modify _) fun _ => .bind Exec.raises_get fun s => ?_
  exact .bind (Exec.raises_ofExcept fun _ => cyclesIn_unexpected) fun _ => Exec.raises_modify _

theorem ppMove_raises : (ppMove : PyM (Servo F) Unit).Raises Unexpected := by
  have hfinish : (do
      Exec.modify writeActualFeedback
      updateTargetReached : PyM (Servo F) Unit).Raises Unexpected :=
    .bind (Exec.raises_modify _) fun _ => updateTargetReached_raises
  refine .bind Exec.raises_get fun s => ?_
  split
  · exact .bind (Exec.raises_modify _) fun _ => hfinish
  · refine .bind (Exec.raises_ofExcept fun _ => stoppingDistance_unexpected) fun _ => ?_
    exact .bind (Exec.raises_modify _) fun _ => hfinish

theorem processPp_raises : (processPp : PyM (Servo F) Unit).Raises Unexpected := by
  refine .bind Exec.raises_get fun s => .when _ ?_
  split
  · exact Exec.raises_modify _
  · split
    · exact Exec.raises_modify _
    · split
      · exact Exec.raises_modify _
      · refine .bind (Exec.raises_modify _) fun _ => .bind Exec.raises_get fun s => ?_
        split
        · exact ppMove_raises
        · exact .bind (Exec.raises_modify _) fun _ => updateTargetReached_raises

theorem processCsp_raises : (processCsp : PyM (Servo F) Unit).Raises Unexpected := by
  refine .bind Exec.raises_get fun s => .when _ ?_
  split
  · exact Exec.raises_modify _
  · split
    · exact Exec.raises_modify _
    · exact .bind (Exec.raises_modify _) fun _ => updateTargetReached_raises

theorem modelUpdate_raises : (modelUpdate : PyM (Servo F) Unit).Raises Unexpected := by
  refine .bind (Exec.raises_modify _) fun _ => .bind Exec.raises_get fun s => ?_
  refine .bind (Exec.raises_modify _) fun _ => .bind Exec.raises_get fun s' => ?_
  refine .bind ?_ fun _ => Exec.raises_modify _
  unfold processMode
  split_ifs
  · exact processPp_raises
  · exact .bind Exec.raises_get fun s => .when _ (Exec.raises_modify _)
  · exact processCsp_raises
  · exact processHoming_raises
  · exact .bind Exec.raises_get fun s => .when _ (Exec.raises_modify _)
  · exact Exec.raises_pure ()

end Servo

end EthercatSimulator.Behaviour
