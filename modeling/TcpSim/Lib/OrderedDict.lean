import Mathlib.Data.List.DropRight
import Mathlib.Data.List.Nodup

/-! Ordered dictionaries: entries in an order that the program can change, and what becomes
of the newest entries when one is used again, some expire or the oldest are evicted. -/

set_option autoImplicit false

/-! ## The last entries of a list -/

namespace OrderedDict

variable {α : Type}

theorem rtake_of_length_le {entries : List α} {n : Nat} (short : entries.length ≤ n) :
    entries.rtake n = entries := by
  simp [List.rtake, Nat.sub_eq_zero_of_le short]

theorem length_rtake_le (entries : List α) (n : Nat) : (entries.rtake n).length ≤ n := by
  simp only [List.rtake, List.length_drop]
  omega

theorem rtake_append_of_le (front : List α) {entries : List α} {n : Nat}
    (long : n ≤ entries.length) : (front ++ entries).rtake n = entries.rtake n := by
  have past : front.length + entries.length - n = front.length + (entries.length - n) := by omega
  rw [List.rtake, List.length_append, past, List.drop_append, List.rtake]
  simp

theorem rtake_split (entries : List α) (n : Nat) :
    ∃ front, entries = front ++ entries.rtake n ∧
      (front = [] ∨ (entries.rtake n).length = n) := by
  refine ⟨entries.take (entries.length - n), (List.take_append_drop _ entries).symm, ?_⟩
  by_cases short : entries.length ≤ n
  · left
    rw [Nat.sub_eq_zero_of_le short, List.take_zero]
  · right
    simp only [List.rtake, List.length_drop]
    omega

/-- Entries that are kept from some place on: the newest of the kept are the kept of the newest. -/
theorem rtake_filter_of_pairwise {keep : α → Bool} {entries : List α}
    (kept : entries.Pairwise fun older newer => keep older = true → keep newer = true) (n : Nat) :
    (entries.filter keep).rtake n = (entries.rtake n).filter keep := by
  induction entries with
  | nil => simp
  | cons entry rest ih =>
      obtain ⟨first, others⟩ := List.pairwise_cons.mp kept
      cases keeps : keep entry with
      | true =>
          have all : ∀ other ∈ entry :: rest, keep other = true :=
            List.forall_mem_cons.mpr ⟨keeps, fun other member => first other member keeps⟩
          rw [List.filter_eq_self.mpr all, List.filter_eq_self.mpr]
          exact fun other member => all other (List.mem_of_mem_drop member)
      | false =>
          rw [List.filter_cons_of_neg (by simp [keeps]), ih others]
          by_cases short : rest.length < n
          · have whole : (entry :: rest).length ≤ n := short
            rw [rtake_of_length_le (Nat.le_of_lt short), rtake_of_length_le whole,
              List.filter_cons_of_neg (by simp [keeps])]
          · rw [show entry :: rest = [entry] ++ rest from rfl,
              rtake_append_of_le [entry] (Nat.le_of_not_lt short)]

end OrderedDict

/-! ## The dictionary -/

structure OrderedDict (κ ν : Type) where
  entries : List (κ × ν)
  nodup : (entries.map Prod.fst).Nodup

namespace OrderedDict

variable {κ ν : Type}

def empty : OrderedDict κ ν := ⟨[], List.nodup_nil⟩

@[simp] theorem empty_entries : (empty : OrderedDict κ ν).entries = [] := rfl

theorem nodup_of_sublist {entries others : List (κ × ν)} (nodup : (entries.map Prod.fst).Nodup)
    (part : others.Sublist entries) : (others.map Prod.fst).Nodup :=
  nodup.sublist (part.map Prod.fst)

theorem nodup_snoc {key : κ} {entries : List (κ × ν)} (nodup : (entries.map Prod.fst).Nodup)
    (absent : key ∉ entries.map Prod.fst) (value : ν) :
    ((entries ++ [(key, value)]).map Prod.fst).Nodup := by
  rw [List.map_append, List.nodup_append]
  refine ⟨nodup, List.nodup_singleton key, ?_⟩
  intro old member other same
  obtain rfl : other = key := List.mem_singleton.mp same
  exact fun equal => absent (equal ▸ member)

/-- The oldest entries are popped while there are more than `limit`; how many were. -/
def evict (limit : Nat) : List (κ × ν) → List (κ × ν) × Nat
  | [] => ([], 0)
  | entry :: rest =>
      if (entry :: rest).length > limit then
        let (left, evicted) := evict limit rest
        (left, evicted + 1)
      else (entry :: rest, 0)

theorem evict_fst (limit : Nat) (entries : List (κ × ν)) :
    (evict limit entries).1 = entries.rtake limit := by
  induction entries with
  | nil => simp [evict]
  | cons entry rest ih =>
      unfold evict
      split
      next more =>
          have long : limit ≤ rest.length := Nat.le_of_lt_succ more
          exact ih.trans (rtake_append_of_le [entry] long).symm
      next fits => exact (rtake_of_length_le (Nat.le_of_not_lt fits)).symm

def evictOldest (self : OrderedDict κ ν) (limit : Nat) : OrderedDict κ ν × Nat :=
  (⟨(evict limit self.entries).1, by
      rw [evict_fst]
      exact nodup_of_sublist self.nodup (List.drop_sublist _ _)⟩,
    (evict limit self.entries).2)

@[simp] theorem evictOldest_entries (self : OrderedDict κ ν) (limit : Nat) :
    (self.evictOldest limit).1.entries = self.entries.rtake limit :=
  evict_fst limit self.entries

section Keys

variable [DecidableEq κ] (self : OrderedDict κ ν)

def contains (key : κ) : Bool := key ∈ self.entries.map Prod.fst

def without (key : κ) (entries : List (κ × ν)) : List (κ × ν) :=
  entries.filter fun entry => entry.1 ≠ key

theorem not_mem_without (key : κ) (entries : List (κ × ν)) :
    key ∉ (without key entries).map Prod.fst := by
  simp [without]

theorem without_of_not_mem {key : κ} {entries : List (κ × ν)}
    (absent : key ∉ entries.map Prod.fst) : without key entries = entries := by
  apply List.filter_eq_self.mpr
  intro entry member
  have other : entry.1 ≠ key := fun same => absent (same ▸ List.mem_map_of_mem member)
  simp [other]

theorem length_without_ge (key : κ) {entries : List (κ × ν)}
    (nodup : (entries.map Prod.fst).Nodup) :
    entries.length ≤ (without key entries).length + 1 := by
  induction entries with
  | nil => simp
  | cons entry rest ih =>
      obtain ⟨absent, nodup⟩ := List.nodup_cons.mp nodup
      by_cases same : entry.1 = key
      · subst same
        have kept : without entry.1 (entry :: rest) = without entry.1 rest := by simp [without]
        rw [kept, without_of_not_mem absent, List.length_cons]
      · have kept : without key (entry :: rest) = entry :: without key rest := by
          simp [without, same]
        rw [kept, List.length_cons, List.length_cons]
        have shorter := ih nodup
        omega

def pop (key : κ) : OrderedDict κ ν where
  entries := without key self.entries
  nodup := nodup_of_sublist self.nodup List.filter_sublist

/-- A key that is there becomes the newest. -/
def moveToEnd (key : κ) : OrderedDict κ ν :=
  match self.entries.find? (·.1 = key) with
  | none => self
  | some entry =>
      ⟨without key self.entries ++ [(key, entry.2)],
        nodup_snoc (self.pop key).nodup (not_mem_without key _) entry.2⟩

/-- Assignment: a key that is there keeps its place. -/
def set (key : κ) (value : ν) : OrderedDict κ ν :=
  if there : self.contains key then
    ⟨self.entries.map fun entry => if entry.1 = key then (key, value) else entry, by
      have same : (self.entries.map fun entry =>
          if entry.1 = key then (key, value) else entry).map Prod.fst =
          self.entries.map Prod.fst := by
        rw [List.map_map]
        apply List.map_congr_left
        intro entry _
        by_cases is : entry.1 = key
        · simp [is]
        · simp [is]
      rw [same]
      exact self.nodup⟩
  else
    ⟨self.entries ++ [(key, value)], nodup_snoc self.nodup (by simpa [contains] using there) value⟩

/-- Using a key: it becomes the newest and gets the value. -/
def touch (key : κ) (value : ν) : OrderedDict κ ν :=
  (if self.contains key then self.moveToEnd key else self).set key value

theorem moveToEnd_entries {key : κ} (there : self.contains key = true) :
    ∃ old, (self.moveToEnd key).entries = without key self.entries ++ [(key, old)] := by
  unfold moveToEnd
  split
  next absent =>
      simp only [contains, decide_eq_true_eq] at there
      obtain ⟨entry, member, same⟩ := List.mem_map.mp there
      have other := List.find?_eq_none.mp absent entry member
      exact absurd same (by simpa using other)
  next entry _ => exact ⟨entry.2, rfl⟩

theorem set_entries_of_newest {key : κ} {old : ν} {others : List (κ × ν)}
    (newest : self.entries = others ++ [(key, old)]) (absent : key ∉ others.map Prod.fst)
    (value : ν) : (self.set key value).entries = others ++ [(key, value)] := by
  have there : self.contains key = true := by
    simp [contains, newest]
  have kept : (others.map fun entry => if entry.1 = key then (key, value) else entry) = others := by
    conv_rhs => rw [← List.map_id others]
    apply List.map_congr_left
    intro entry member
    apply if_neg
    intro same
    exact absent (same ▸ List.mem_map_of_mem member)
  unfold set
  rw [dif_pos there]
  simp only [newest, List.map_append, kept, List.map_cons, List.map_nil, if_pos]

@[simp] theorem touch_entries (key : κ) (value : ν) :
    (self.touch key value).entries = without key self.entries ++ [(key, value)] := by
  unfold touch
  split
  next there =>
      obtain ⟨old, moved⟩ := self.moveToEnd_entries there
      exact (self.moveToEnd key).set_entries_of_newest moved (not_mem_without key _) value
  next absent =>
      have missing : key ∉ self.entries.map Prod.fst := by
        simpa [contains] using absent
      rw [without_of_not_mem missing]
      unfold set
      rw [dif_neg absent]

/-- For the newest entries it does not matter whether the oldest were evicted before a key
is used again. -/
theorem rtake_without_snoc {entries : List (κ × ν)} (nodup : (entries.map Prod.fst).Nodup)
    (n : Nat) (key : κ) (value : ν) :
    (without key (entries.rtake n) ++ [(key, value)]).rtake n =
      (without key entries ++ [(key, value)]).rtake n := by
  cases n with
  | zero => simp
  | succ n =>
      rw [List.rtake_concat_succ, List.rtake_concat_succ]
      obtain ⟨front, split, whole⟩ := rtake_split entries (n + 1)
      rcases whole with rfl | full
      · rw [← show entries = entries.rtake (n + 1) from split]
      · have part : (entries.rtake (n + 1)).Sublist entries := List.drop_sublist _ _
        have long := length_without_ge key (nodup_of_sublist nodup part)
        rw [full] at long
        conv_rhs => rw [split, without, List.filter_append]
        exact congrArg (· ++ [(key, value)])
          (rtake_append_of_le (without key front) (Nat.le_of_succ_le_succ long)).symm

/-! ## Expiry -/

def popAll (keys : List κ) : OrderedDict κ ν := keys.foldl pop self

theorem popAll_entries (keys : List κ) :
    (self.popAll keys).entries = self.entries.filter fun entry => entry.1 ∉ keys := by
  induction keys generalizing self with
  | nil => simp [popAll]
  | cons key rest ih =>
      refine (ih (self.pop key)).trans ?_
      simp only [pop, without, List.filter_filter]
      apply List.filter_congr
      intro entry _
      by_cases same : entry.1 = key
      · simp [same]
      · simp [same]

theorem popAll_filter_entries (drop : κ × ν → Bool) :
    (self.popAll ((self.entries.filter drop).map Prod.fst)).entries =
      self.entries.filter fun entry => !drop entry := by
  rw [popAll_entries]
  apply List.filter_congr
  intro entry member
  have own : entry.1 ∈ (self.entries.filter drop).map Prod.fst ↔ drop entry = true := by
    constructor
    · intro dropped
      obtain ⟨other, found, same⟩ := List.mem_map.mp dropped
      obtain ⟨there, drops⟩ := List.mem_filter.mp found
      obtain rfl : other = entry := List.inj_on_of_nodup_map self.nodup there member same
      exact drops
    · intro drops
      exact List.mem_map_of_mem (List.mem_filter.mpr ⟨member, drops⟩)
  cases drops : drop entry with
  | true => simp [own, drops]
  | false => simp [own, drops]

end Keys

end OrderedDict
