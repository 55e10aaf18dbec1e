/-
**Trust tiers.**

Five tiers, from the least to the most trusted. A tier is stored as its rank.
-/

namespace Reputation

/-- A trust tier. -/
inductive Tier where
  | unrated
  | bronze
  | silver
  | gold
  | platinum
deriving DecidableEq, Repr

namespace Tier

/-- The tiers that have to be earned, easiest first. -/
def rated : List Tier := [bronze, silver, gold, platinum]

/-- The place of a tier, counted from the least trusted. -/
def rank : Tier → Nat
  | unrated => 0
  | bronze => 1
  | silver => 2
  | gold => 3
  | platinum => 4

/-- The tier of a rank. -/
def ofRank? : Nat → Option Tier
  | 0 => some unrated
  | 1 => some bronze
  | 2 => some silver
  | 3 => some gold
  | 4 => some platinum
  | _ => none

/-- The tier directly above. -/
def next? (tier : Tier) : Option Tier := ofRank? (tier.rank + 1)

/-- The name of a tier. -/
def name : Tier → String
  | unrated => "unrated"
  | bronze => "bronze"
  | silver => "silver"
  | gold => "gold"
  | platinum => "platinum"

instance : LE Tier := ⟨fun first second => first.rank ≤ second.rank⟩

instance : LT Tier := ⟨fun first second => first.rank < second.rank⟩

instance (first second : Tier) : Decidable (first ≤ second) :=
  inferInstanceAs (Decidable (first.rank ≤ second.rank))

instance (first second : Tier) : Decidable (first < second) :=
  inferInstanceAs (Decidable (first.rank < second.rank))

theorem le_iff_rank {first second : Tier} : first ≤ second ↔ first.rank ≤ second.rank := Iff.rfl

@[simp] theorem ofRank?_rank (tier : Tier) : ofRank? tier.rank = some tier := by
  cases tier <;> rfl

theorem rank_le (tier : Tier) : tier.rank ≤ 4 := by cases tier <;> decide

theorem rank_of_ofRank? {rank : Nat} {tier : Tier} (found : ofRank? rank = some tier) :
    tier.rank = rank := by
  unfold ofRank? at found
  split at found <;> simp_all [Tier.rank] <;> subst found <;> rfl

end Tier

end Reputation
