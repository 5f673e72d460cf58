import Mathlib

set_option autoImplicit false

-- Two lists in strictly ascending key order, merged key by key: every entry of align is
-- what the two lists hold at one key.
namespace Align

variable {Entry : Type} (key : Entry → Nat)

def Ascending (entries : List Entry) : Prop := entries.Pairwise fun a b => key a < key b

instance (entries : List Entry) : Decidable (Ascending key entries) :=
  inferInstanceAs (Decidable (entries.Pairwise _))

def lookup (number : Nat) (entries : List Entry) : Option Entry :=
  entries.find? fun entry => key entry = number

def align : List Entry → List Entry → List (Option Entry × Option Entry)
  | [], right => right.map fun b => (none, some b)
  | a :: left, right =>
      ((right.takeWhile fun b => key b < key a).map fun b => (none, some b)) ++
        match right.dropWhile fun b => key b < key a with
        | [] => (some a, none) :: align left []
        | b :: later =>
            if key a = key b then (some a, some b) :: align left later
            else (some a, none) :: align left (b :: later)

theorem lookup_of_mem (entries : List Entry) (ordered : Ascending key entries) (entry : Entry)
    (member : entry ∈ entries) : lookup key (key entry) entries = some entry := by
  induction entries with
  | nil => cases member
  | cons head tail ih =>
      obtain ⟨below, rest⟩ := List.pairwise_cons.mp ordered
      rcases List.mem_cons.mp member with same | later
      · simp [lookup, same]
      · have other : key head ≠ key entry := Nat.ne_of_lt (below entry later)
        simpa [lookup, List.find?_cons, other] using ih rest later

theorem lookup_cons (number : Nat) (head : Entry) (tail : List Entry) :
    lookup key number (head :: tail) = if key head = number then some head else lookup key number tail := by
  by_cases same : key head = number <;> simp [lookup, same]

theorem lookup_none_of_below (number : Nat) (entries : List Entry) (above : ∀ entry ∈ entries, number < key entry) :
    lookup key number entries = none := by
  apply List.find?_eq_none.mpr
  intro entry member
  simpa using Nat.ne_of_gt (above entry member)

theorem lookup_none_before (number : Nat) (head : Entry) (tail : List Entry) (below : ∀ entry ∈ tail, key head < key entry)
    (before : number < key head) : lookup key number (head :: tail) = none :=
  lookup_none_of_below key number (head :: tail)
    (List.forall_mem_cons.mpr ⟨before, fun entry later => before.trans (below entry later)⟩)

theorem lookup_take_while (number bound : Nat) (entries : List Entry) (ordered : Ascending key entries) :
    lookup key number (entries.takeWhile fun b => key b < bound) =
      if number < bound then lookup key number entries else none := by
  induction entries with
  | nil => simp [lookup]
  | cons head tail ih =>
      obtain ⟨below, rest⟩ := List.pairwise_cons.mp ordered
      by_cases small : key head < bound
      · rw [List.takeWhile_cons_of_pos (by simpa using small), lookup_cons, lookup_cons, ih rest]
        by_cases same : key head = number
        · rw [if_pos same, if_pos same, if_pos (same ▸ small)]
        · rw [if_neg same, if_neg same]
      · rw [List.takeWhile_cons_of_neg (by simpa using small)]
        by_cases before : number < bound
        · rw [if_pos before]
          exact (lookup_none_before key number head tail below (by omega)).symm
        · rw [if_neg before]
          rfl

theorem lookup_drop_while (number bound : Nat) (entries : List Entry) (ordered : Ascending key entries) :
    lookup key number (entries.dropWhile fun b => key b < bound) =
      if number < bound then none else lookup key number entries := by
  induction entries with
  | nil => simp [lookup]
  | cons head tail ih =>
      obtain ⟨below, rest⟩ := List.pairwise_cons.mp ordered
      by_cases small : key head < bound
      · rw [List.dropWhile_cons_of_pos (by simpa using small), lookup_cons, ih rest]
        by_cases before : number < bound
        · rw [if_pos before, if_pos before]
        · rw [if_neg before, if_neg before, if_neg (by omega)]
      · rw [List.dropWhile_cons_of_neg (by simpa using small)]
        by_cases before : number < bound
        · rw [if_pos before]
          exact lookup_none_before key number head tail below (by omega)
        · rw [if_neg before]

theorem drop_while_ascending (bound : Nat) (entries : List Entry) (ordered : Ascending key entries) :
    Ascending key (entries.dropWhile fun b => key b < bound) :=
  List.Pairwise.sublist (List.dropWhile_sublist _) ordered

theorem drop_while_above (bound : Nat) (entries : List Entry) (ordered : Ascending key entries) :
    ∀ entry ∈ entries.dropWhile (fun b => key b < bound), bound ≤ key entry := by
  intro entry member
  by_contra small
  have kept := lookup_of_mem key _ (drop_while_ascending key bound entries ordered) entry member
  rw [lookup_drop_while key (key entry) bound entries ordered, if_pos (by omega)] at kept
  cases kept

def Held (left right : List Entry) (pair : Option Entry × Option Entry) : Prop :=
  ∃ number, pair = (lookup key number left, lookup key number right) ∧ pair ≠ (none, none)

theorem held_nil (right : List Entry) (ordered : Ascending key right) (pair : Option Entry × Option Entry) :
    pair ∈ right.map (fun b => (none, some b)) ↔ Held key [] right pair := by
  constructor
  · intro member
    obtain ⟨b, listed, same⟩ := List.mem_map.mp member
    exact ⟨key b, by rw [lookup_of_mem key right ordered b listed, ← same]; rfl, by simp [← same]⟩
  · rintro ⟨number, same, some⟩
    cases found : lookup key number right with
    | none => exact absurd (by rw [same, found]; rfl) some
    | some b => exact List.mem_map.mpr ⟨b, List.mem_of_find?_eq_some found, by rw [same, found]; rfl⟩

theorem held_step (number : Nat) (atLeft atRight : Nat → Option Entry) (left right : List Entry)
    (pair : Option Entry × Option Entry) (some : (atLeft number, atRight number) ≠ (none, none))
    (leftAbove : ∀ entry ∈ left, number < key entry) (rightAbove : ∀ entry ∈ right, number < key entry)
    (leftLater : ∀ later, number < later → atLeft later = lookup key later left)
    (rightLater : ∀ later, number < later → atRight later = lookup key later right) :
    (pair = (atLeft number, atRight number) ∨ Held key left right pair) ↔
      ∃ later, number ≤ later ∧ pair = (atLeft later, atRight later) ∧ pair ≠ (none, none) := by
  constructor
  · rintro (here | ⟨later, same, present⟩)
    · exact ⟨number, Nat.le_refl _, here, here ▸ some⟩
    · have beyond : number < later := by
        by_contra early
        have bound : ∀ entries : List Entry, (∀ entry ∈ entries, number < key entry) →
            lookup key later entries = none := fun entries above =>
          lookup_none_of_below key later entries fun entry member =>
            Nat.lt_of_le_of_lt (Nat.le_of_not_lt early) (above entry member)
        exact present (by rw [same, bound left leftAbove, bound right rightAbove])
      exact ⟨later, Nat.le_of_lt beyond, by rw [same, leftLater later beyond, rightLater later beyond], present⟩
  · rintro ⟨later, reached, same, present⟩
    rcases Nat.eq_or_lt_of_le reached with here | beyond
    · exact Or.inl (here ▸ same)
    · exact Or.inr ⟨later, by rw [same, leftLater later beyond, rightLater later beyond], present⟩

theorem held_split (bound : Nat) (left right : List Entry) (pair : Option Entry × Option Entry) :
    Held key left right pair ↔
      (∃ number, number < bound ∧ pair = (lookup key number left, lookup key number right) ∧ pair ≠ (none, none)) ∨
      ∃ number, bound ≤ number ∧ pair = (lookup key number left, lookup key number right) ∧ pair ≠ (none, none) := by
  constructor
  · rintro ⟨number, same, present⟩
    rcases Nat.lt_or_ge number bound with before | after
    · exact Or.inl ⟨number, before, same, present⟩
    · exact Or.inr ⟨number, after, same, present⟩
  · rintro (⟨number, _, same, present⟩ | ⟨number, _, same, present⟩)
    · exact ⟨number, same, present⟩
    · exact ⟨number, same, present⟩

theorem held_before (a : Entry) (left right : List Entry) (leftOrdered : Ascending key (a :: left))
    (rightOrdered : Ascending key right) (pair : Option Entry × Option Entry) :
    pair ∈ (right.takeWhile fun b => key b < key a).map (fun b => (none, some b)) ↔
      ∃ number, number < key a ∧ pair = (lookup key number (a :: left), lookup key number right) ∧
        pair ≠ (none, none) := by
  have absent : ∀ number < key a, lookup key number (a :: left) = none := by
    intro number before
    apply lookup_none_of_below
    intro entry member
    rcases List.mem_cons.mp member with same | later
    · exact same ▸ before
    · exact Nat.lt_trans before ((List.pairwise_cons.mp leftOrdered).1 entry later)
  have taken : Ascending key (right.takeWhile fun b => key b < key a) :=
    List.Pairwise.sublist (List.takeWhile_sublist _) rightOrdered
  rw [held_nil key _ taken pair]
  constructor
  · rintro ⟨number, same, present⟩
    rw [lookup_take_while key number (key a) right rightOrdered] at same
    by_cases before : number < key a
    · exact ⟨number, before, by rw [same, if_pos before, absent number before]; rfl, present⟩
    · exact absurd (by rw [same, if_neg before]; rfl) present
  · rintro ⟨number, before, same, present⟩
    refine ⟨number, ?_, present⟩
    rw [same, lookup_take_while key number (key a) right rightOrdered, if_pos before, absent number before]
    rfl

-- Induction on the left list; takeWhile and dropWhile split the right one at its first key.
theorem mem_align_iff (left right : List Entry) (leftOrdered : Ascending key left)
    (rightOrdered : Ascending key right) (pair : Option Entry × Option Entry) :
    pair ∈ align key left right ↔ Held key left right pair := by
  induction left generalizing right with
  | nil => exact held_nil key right rightOrdered pair
  | cons a left ih =>
      obtain ⟨leftAbove, leftRest⟩ := List.pairwise_cons.mp leftOrdered
      have leftLater : ∀ later, key a < later → lookup key later (a :: left) = lookup key later left := by
        intro later beyond
        rw [lookup_cons, if_neg (Nat.ne_of_lt beyond)]
      have here : lookup key (key a) (a :: left) = some a := by rw [lookup_cons, if_pos rfl]
      have dropped : ∀ later, key a ≤ later →
          lookup key later right = lookup key later (right.dropWhile fun b => key b < key a) := by
        intro later reached
        rw [lookup_drop_while key later (key a) right rightOrdered, if_neg (by omega)]
      rw [held_split key (key a), align, List.mem_append, held_before key a left right leftOrdered rightOrdered pair]
      apply or_congr Iff.rfl
      have restOrdered := drop_while_ascending key (key a) right rightOrdered
      have restAbove := drop_while_above key (key a) right rightOrdered
      generalize (right.dropWhile fun b => key b < key a) = rest at *
      cases rest with
      | nil =>
          have none : lookup key (key a) right = none := dropped (key a) (Nat.le_refl _)
          rw [List.mem_cons, ih [] leftRest List.Pairwise.nil]
          have step := held_step key (key a) (fun n => lookup key n (a :: left)) (fun n => lookup key n right) left []
            pair (by simp [here]) leftAbove (by simp) leftLater fun later beyond => dropped later (Nat.le_of_lt beyond)
          rw [here, none] at step
          exact step
      | cons b later =>
          obtain ⟨above, laterOrdered⟩ := List.pairwise_cons.mp restOrdered
          by_cases same : key a = key b
          · have found : lookup key (key a) right = some b := by
              rw [dropped (key a) (Nat.le_refl _), lookup_cons, if_pos same.symm]
            simp only [if_pos same]
            rw [List.mem_cons, ih later leftRest laterOrdered]
            have step := held_step key (key a) (fun n => lookup key n (a :: left)) (fun n => lookup key n right) left
              later pair (by simp [here]) leftAbove (fun entry member => same ▸ above entry member) leftLater
              fun number beyond => by
                rw [dropped number (Nat.le_of_lt beyond), lookup_cons, if_neg (by omega)]
            rw [here, found] at step
            exact step
          · have beyondA : ∀ entry ∈ b :: later, key a < key entry := by
              intro entry member
              have reached := restAbove entry member
              rcases List.mem_cons.mp member with first | rest
              · subst first
                omega
              · have later := above entry rest
                have base := restAbove b List.mem_cons_self
                omega
            have none : lookup key (key a) right = none := by
              rw [dropped (key a) (Nat.le_refl _)]
              exact lookup_none_of_below key (key a) (b :: later) beyondA
            simp only [if_neg same]
            rw [List.mem_cons, ih (b :: later) leftRest restOrdered]
            have step := held_step key (key a) (fun n => lookup key n (a :: left)) (fun n => lookup key n right) left
              (b :: later) pair (by simp [here]) leftAbove beyondA leftLater
              fun number beyond => dropped number (Nat.le_of_lt beyond)
            rw [here, none] at step
            exact step

theorem align_right (left right : List Entry) : (align key left right).filterMap Prod.snd = right := by
  induction left generalizing right with
  | nil => simp [align, List.filterMap_map]
  | cons a left ih =>
      have before : ((right.takeWhile fun b => key b < key a).map fun b => ((none : Option Entry), some b)).filterMap Prod.snd =
          right.takeWhile fun b => key b < key a := by
        simp [List.filterMap_map]
      have rest : (right.takeWhile fun b => key b < key a) ++ (right.dropWhile fun b => key b < key a) = right :=
        List.takeWhile_append_dropWhile
      rw [align, List.filterMap_append, before]
      refine Eq.trans (congrArg _ ?_) rest
      generalize (right.dropWhile fun b => key b < key a) = later
      cases later with
      | nil => exact (List.filterMap_cons_none rfl).trans (ih [])
      | cons b later =>
          dsimp only
          split
          · change b :: (align key left later).filterMap Prod.snd = b :: later
            rw [ih later]
          · exact (List.filterMap_cons_none rfl).trans (ih (b :: later))

theorem count_of_lookup (number : Nat) (entries : List Entry) (ordered : Ascending key entries) (entry : Entry)
    (found : lookup key number entries = some entry) : (entries.countP fun other => key other = number) = 1 := by
  have distinct : (entries.map key).Nodup := (List.pairwise_map.mpr ordered).imp Nat.ne_of_lt
  have listed : number ∈ entries.map key :=
    List.mem_map.mpr ⟨entry, List.mem_of_find?_eq_some found, by simpa using List.find?_some found⟩
  have once := List.count_eq_one_of_mem distinct listed
  rw [List.count, List.countP_map] at once
  exact once

end Align
