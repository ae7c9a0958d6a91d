import Mathlib

/-! A detector with two thresholds: it is marked when the level reaches the upper threshold,
keeps the mark inside the band and loses it at the lower threshold. Over a history of samples
the mark is the time of the first crossing since the level was last low. -/

set_option autoImplicit false

namespace Hysteresis

variable {τ β : Type}

structure Sample (τ β : Type) where
  time : τ
  level : β
  deriving DecidableEq, Repr

variable [LinearOrder β] (low high : β)

def update (mark : Option τ) (sample : Sample τ β) : Option τ :=
  if high ≤ sample.level then some (mark.getD sample.time)
  else if sample.level ≤ low then none
  else mark

def mark (samples : List (Sample τ β)) : Option τ := samples.foldl (update low high) none

theorem mark_snoc (samples : List (Sample τ β)) (sample : Sample τ β) :
    mark low high (samples ++ [sample]) = update low high (mark low high samples) sample := by
  simp [mark]

/-- The level reached `high` with the sample, for the first time since it was last at or below
`low`, and has stayed above `low` ever since. -/
def Crosses (samples : List (Sample τ β)) (sample : Sample τ β) : Prop :=
  ∃ calm rising later, samples = calm ++ (rising ++ sample :: later) ∧
    (∀ last ∈ calm.getLast?, last.level ≤ low) ∧
    (∀ early ∈ rising, low < early.level ∧ early.level < high) ∧
    high ≤ sample.level ∧ ∀ late ∈ later, low < late.level

/-- The samples since the level was last at or below `low`. -/
def sinceLow (samples : List (Sample τ β)) : List (Sample τ β) :=
  samples.rtakeWhile fun sample => low < sample.level

variable {low high}

theorem sinceLow_snoc (samples : List (Sample τ β)) (sample : Sample τ β) :
    sinceLow low (samples ++ [sample]) =
      if low < sample.level then sinceLow low samples ++ [sample] else [] := by
  simp [sinceLow, List.rtakeWhile_concat]

theorem lt_of_mem_sinceLow {samples : List (Sample τ β)} {sample : Sample τ β}
    (member : sample ∈ sinceLow low samples) : low < sample.level := by
  have above := List.mem_rtakeWhile_imp (p := fun sample : Sample τ β => decide (low < sample.level))
    member
  exact of_decide_eq_true above

theorem sinceLow_append {calm up : List (Sample τ β)}
    (calmed : ∀ last ∈ calm.getLast?, last.level ≤ low) (stays : ∀ sample ∈ up, low < sample.level) :
    sinceLow low (calm ++ up) = up := by
  induction up using List.reverseRecOn with
  | nil =>
      rw [List.append_nil, sinceLow, List.rtakeWhile_eq_nil_iff]
      intro nonempty above
      have last := calmed _ (List.getLast?_eq_some_getLast nonempty)
      exact absurd (of_decide_eq_true above) (not_lt.mpr last)
  | append_singleton up sample ih =>
      have above : low < sample.level := stays sample (by simp)
      have before := ih fun other member => stays other (List.mem_append_left _ member)
      rw [← List.append_assoc, sinceLow_snoc, if_pos above, before]

theorem crosses_iff_find (apart : low < high) {samples : List (Sample τ β)}
    {sample : Sample τ β} : Crosses low high samples sample ↔
      (sinceLow low samples).find? (high ≤ ·.level) = some sample := by
  constructor
  · intro crosses
    obtain ⟨calm, rising, later, rfl, calmed, band, reaches, stays⟩ := crosses
    rw [sinceLow_append calmed]
    · rw [List.find?_eq_some_iff_append]
      refine ⟨decide_eq_true reaches, rising, later, rfl, ?_⟩
      intro early member
      simpa using (band early member).2
    · intro other member
      rcases List.mem_append.mp member with early | member
      · exact (band other early).1
      · rcases List.mem_cons.mp member with rfl | late
        · exact lt_of_lt_of_le apart reaches
        · exact stays other late
  · intro found
    obtain ⟨reaches, rising, later, since, below⟩ := List.find?_eq_some_iff_append.mp found
    have above : ∀ other ∈ rising ++ sample :: later, low < other.level := by
      intro other member
      rw [← since] at member
      exact lt_of_mem_sinceLow member
    refine ⟨samples.rdropWhile fun sample => low < sample.level, rising, later, ?_, ?_, ?_,
      of_decide_eq_true reaches, ?_⟩
    · rw [← since]
      exact List.rdropWhile_append_rtakeWhile.symm
    · intro last isLast
      obtain ⟨nonempty, rfl⟩ := List.mem_getLast?_eq_getLast isLast
      simpa using List.rdropWhile_last_not _ _ nonempty
    · intro early member
      exact ⟨above early (List.mem_append_left _ member), by simpa using below early member⟩
    · intro late member
      exact above late (by simp [member])

theorem mark_eq_find (apart : low < high) (samples : List (Sample τ β)) :
    mark low high samples = ((sinceLow low samples).find? (high ≤ ·.level)).map Sample.time := by
  induction samples using List.reverseRecOn with
  | nil => rfl
  | append_singleton samples sample ih =>
      rw [mark_snoc, ih, update]
      split
      next reaches =>
          have above : low < sample.level := lt_of_lt_of_le apart reaches
          rw [sinceLow_snoc, if_pos above, List.find?_append]
          cases (sinceLow low samples).find? (high ≤ ·.level) with
          | none => simp [reaches]
          | some crossing => simp
      next below =>
          split
          next calm =>
              rw [sinceLow_snoc, if_neg (not_lt.mpr calm)]
              rfl
          next above =>
              have above : low < sample.level := not_le.mp above
              rw [sinceLow_snoc, if_pos above, List.find?_append]
              simp [below]

/-- The mark tells when the level crossed the upper threshold. -/
theorem mark_eq_some_iff (apart : low < high) {samples : List (Sample τ β)} {time : τ} :
    mark low high samples = some time ↔
      ∃ sample, Crosses low high samples sample ∧ sample.time = time := by
  rw [mark_eq_find apart, Option.map_eq_some_iff]
  simp only [crosses_iff_find apart]

end Hysteresis
