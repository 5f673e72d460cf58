import Mathlib
import RioPassthru.Lib.Loops

set_option autoImplicit false

-- Recurring events in a priority queue: the first of them is served and put back for its next time.
structure Agenda (Entry : Type) where
  contents : List Entry
  log : List Entry
deriving DecidableEq, Repr

namespace Agenda

open scoped List

variable {Entry Key : Type} [LinearOrder Key] {key : Entry → Key}

-- The contents are a list up to order; which of several least entries comes first is open.
structure PriorityQueue (key : Entry → Key) where
  pop : List Entry → Option (Entry × List Entry)
  empty : ∀ contents, pop contents = none → contents = []
  least : ∀ contents first rest, pop contents = some (first, rest) →
    contents.Perm (first :: rest) ∧ ∀ other ∈ rest, key first ≤ key other

def PriorityQueue.top (queue : PriorityQueue key) (contents : List Entry) : Option Entry :=
  (queue.pop contents).map Prod.fst

theorem PriorityQueue.top_of_pop (queue : PriorityQueue key) (contents : List Entry) (first : Entry) (rest : List Entry)
    (popped : queue.pop contents = some (first, rest)) : queue.top contents = some first := by
  rw [top, popped, Option.map_some]

theorem PriorityQueue.top_mem (queue : PriorityQueue key) (contents : List Entry) (first : Entry)
    (top : queue.top contents = some first) : first ∈ contents := by
  obtain ⟨⟨first, rest⟩, popped, rfl⟩ := Option.map_eq_some_iff.mp top
  exact (queue.least contents first rest popped).1.mem_iff.mpr List.mem_cons_self

theorem PriorityQueue.top_least (queue : PriorityQueue key) (contents : List Entry) (first entry : Entry)
    (top : queue.top contents = some first) (present : entry ∈ contents) : key first ≤ key entry := by
  obtain ⟨⟨first, rest⟩, popped, rfl⟩ := Option.map_eq_some_iff.mp top
  obtain ⟨same, least⟩ := queue.least contents first rest popped
  obtain rfl | later := List.mem_cons.mp (same.mem_iff.mp present)
  · exact le_rfl
  · exact least entry later

theorem PriorityQueue.top_exists (queue : PriorityQueue key) (contents : List Entry) (entry : Entry)
    (present : entry ∈ contents) : ∃ first, queue.top contents = some first := by
  rw [top]
  cases popped : queue.pop contents with
  | none =>
      rw [queue.empty contents popped] at present
      cases present
  | some found => exact ⟨found.1, rfl⟩

def serve (queue : PriorityQueue key) (advance : Entry → Entry) (agenda : Agenda Entry) : Agenda Entry :=
  match queue.pop agenda.contents with
  | none => agenda
  | some (first, rest) => ⟨advance first :: rest, agenda.log ++ [first]⟩

def Ready (queue : PriorityQueue key) (due : Entry → Prop) (agenda : Agenda Entry) : Prop :=
  ∃ first ∈ queue.top agenda.contents, due first

instance (queue : PriorityQueue key) (due : Entry → Prop) [DecidablePred due] : DecidablePred (Ready queue due) :=
  fun agenda =>
    match found : queue.top agenda.contents with
    | none => .isFalse fun ready => by
        obtain ⟨first, top, _⟩ := ready
        rw [found] at top
        cases top
    | some first =>
        decidable_of_iff (due first) ⟨fun now => ⟨first, found, now⟩, fun ready => by
          obtain ⟨other, top, now⟩ := ready
          rw [Option.mem_def, found] at top
          cases top
          exact now⟩

section Service

variable (queue : PriorityQueue key) (advance : Entry → Entry)

theorem serve_cases (agenda : Agenda Entry) :
    agenda.contents = [] ∧ serve queue advance agenda = agenda ∨
      ∃ first rest, queue.top agenda.contents = some first ∧ agenda.contents.Perm (first :: rest) ∧
        serve queue advance agenda = ⟨advance first :: rest, agenda.log ++ [first]⟩ := by
  cases popped : queue.pop agenda.contents with
  | none =>
      left
      exact ⟨queue.empty agenda.contents popped, by rw [serve, popped]⟩
  | some found =>
      right
      refine ⟨found.1, found.2, queue.top_of_pop agenda.contents found.1 found.2 popped,
        (queue.least agenda.contents found.1 found.2 popped).1, ?_⟩
      rw [serve, popped]

structure Ordered (key : Entry → Key) (agenda : Agenda Entry) : Prop where
  sorted : agenda.log.Pairwise (fun earlier later => key earlier ≤ key later)
  past : ∀ served ∈ agenda.log, ∀ waiting ∈ agenda.contents, key served ≤ key waiting

theorem serve_keeps_ordered (agenda : Agenda Entry) (later : ∀ entry, key entry ≤ key (advance entry))
    (ordered : Ordered key agenda) : Ordered key (serve queue advance agenda) := by
  obtain ⟨_, same⟩ | ⟨first, rest, top, perm, same⟩ := serve_cases queue advance agenda
  · rw [same]
    exact ordered
  · rw [same]
    have present : ∀ entry ∈ first :: rest, entry ∈ agenda.contents := fun entry member => perm.mem_iff.mpr member
    constructor
    · refine List.pairwise_append.mpr ⟨ordered.sorted, List.pairwise_singleton _ _, ?_⟩
      intro served member entry single
      rw [List.mem_singleton.mp single]
      exact ordered.past served member first (present first List.mem_cons_self)
    · have next : ∀ waiting ∈ advance first :: rest, key first ≤ key waiting := by
        intro waiting member
        obtain rfl | behind := List.mem_cons.mp member
        · exact later first
        · exact queue.top_least agenda.contents first waiting top (present waiting (List.mem_cons_of_mem first behind))
      intro served member waiting remains
      obtain before | now := List.mem_append.mp member
      · exact (ordered.past served before first (present first List.mem_cons_self)).trans (next waiting remains)
      · rw [List.mem_singleton.mp now]
        exact next waiting remains

def occurrences (advance : Entry → Entry) (entry : Entry) (count : Nat) : List Entry :=
  (List.range count).map (fun turn => advance^[turn] entry)

theorem occurrences_succ (entry : Entry) (count : Nat) :
    occurrences advance entry (count + 1) = occurrences advance entry count ++ [advance^[count] entry] := by
  rw [occurrences, List.range_succ, List.map_append, List.map_singleton, occurrences]

structure Progress (advance : Entry → Entry) (start : List Entry) (turns : List (Entry × Nat))
    (agenda : Agenda Entry) : Prop where
  started : start.Perm (turns.map Prod.fst)
  waiting : agenda.contents.Perm (turns.map (fun turn => advance^[turn.2] turn.1))
  served : agenda.log.Perm (turns.flatMap (fun turn => occurrences advance turn.1 turn.2))

theorem Progress.length_eq {start : List Entry} {turns : List (Entry × Nat)} {agenda : Agenda Entry}
    (progress : Progress advance start turns agenda) : agenda.contents.length = start.length := by
  rw [progress.waiting.length_eq, progress.started.length_eq, List.length_map, List.length_map]

theorem progress_start (start : List Entry) :
    Progress advance start (start.map (fun entry => (entry, 0))) ⟨start, []⟩ := by
  refine ⟨?_, ?_, ?_⟩
  · rw [List.map_map, show Prod.fst ∘ (fun entry : Entry => (entry, 0)) = id from rfl, List.map_id]
  · rw [List.map_map, show (fun turn : Entry × Nat => advance^[turn.2] turn.1) ∘ (fun entry => (entry, 0)) = id from rfl,
      List.map_id]
  · rw [List.flatMap_map]
    exact .of_eq (List.flatMap_eq_nil_iff.mpr fun _ _ => rfl).symm

theorem serve_keeps_progress (start : List Entry) (turns : List (Entry × Nat)) (agenda : Agenda Entry)
    (progress : Progress advance start turns agenda) :
    ∃ next, Progress advance start next (serve queue advance agenda) := by
  obtain ⟨_, same⟩ | ⟨first, rest, _, perm, same⟩ := serve_cases queue advance agenda
  · exact ⟨turns, by rwa [same]⟩
  · have all := perm.symm.trans progress.waiting
    obtain ⟨⟨entry, count⟩, member, now⟩ := List.mem_map.mp (all.mem_iff.mp List.mem_cons_self)
    obtain ⟨before, after, split⟩ := List.append_of_mem member
    subst first turns
    refine ⟨(entry, count + 1) :: (before ++ after), ?_, ?_, ?_⟩
    · refine progress.started.trans ?_
      rw [List.map_append, List.map_cons, List.map_cons, List.map_append]
      exact List.perm_middle
    · rw [same, List.map_cons, List.map_append, Function.iterate_succ_apply']
      apply List.Perm.cons
      rw [List.map_append, List.map_cons] at all
      exact (all.trans List.perm_middle).cons_inv
    · rw [same, List.flatMap_cons, List.flatMap_append, occurrences_succ]
      refine (progress.served.append_right _).trans ?_
      rw [List.flatMap_append, List.flatMap_cons]
      -- The new turn goes behind the entry's other ones, and these to the front.
      calc _
        _ ~ [advance^[count] entry] ++ (before.flatMap _ ++ (occurrences advance entry count ++ after.flatMap _)) :=
            List.perm_append_comm
        _ ~ [advance^[count] entry] ++ (occurrences advance entry count ++ (before.flatMap _ ++ after.flatMap _)) :=
            (List.perm_append_comm_assoc _ _ _).append_left _
        _ ~ occurrences advance entry count ++ ([advance^[count] entry] ++ (before.flatMap _ ++ after.flatMap _)) :=
            List.perm_append_comm_assoc _ _ _
        _ = _ := (List.append_assoc _ _ _).symm

variable (due : Entry → Prop)

theorem not_ready_none_due (agenda : Agenda Entry) (early : ∀ earlier later, key earlier ≤ key later → due later → due earlier)
    (rest : ¬Ready queue due agenda) : ∀ entry ∈ agenda.contents, ¬due entry := by
  intro entry present now
  obtain ⟨first, top⟩ := queue.top_exists agenda.contents entry present
  exact rest ⟨first, top, early first entry (queue.top_least agenda.contents first entry top present) now⟩

def remaining (left : Entry → Nat) (agenda : Agenda Entry) : Nat := (agenda.contents.map left).sum

theorem serve_ready (agenda : Agenda Entry) (ready : Ready queue due agenda) :
    ∃ first rest, due first ∧ agenda.contents.Perm (first :: rest) ∧
      serve queue advance agenda = ⟨advance first :: rest, agenda.log ++ [first]⟩ := by
  obtain ⟨first, top, now⟩ := ready
  obtain ⟨nothing, _⟩ | ⟨found, rest, found_top, perm, same⟩ := serve_cases queue advance agenda
  · obtain ⟨⟨other, others⟩, popped, _⟩ := Option.map_eq_some_iff.mp top
    have perm := (queue.least agenda.contents other others popped).1
    rw [nothing] at perm
    exact absurd perm.symm.eq_nil (List.cons_ne_nil other others)
  · rw [Option.mem_def, found_top] at top
    cases top
    exact ⟨first, rest, now, perm, same⟩

theorem serve_falls (left : Entry → Nat) (falls : ∀ entry, due entry → left (advance entry) < left entry)
    (agenda : Agenda Entry) (ready : Ready queue due agenda) :
    remaining left (serve queue advance agenda) < remaining left agenda := by
  obtain ⟨first, rest, now, perm, same⟩ := serve_ready queue advance due agenda ready
  rw [remaining, remaining, same, (perm.map left).sum_nat, List.map_cons, List.map_cons, List.sum_cons, List.sum_cons]
  exact Nat.add_lt_add_right (falls first now) _

-- All that is due is served, also what becomes due again by its own advance.
def drain [DecidablePred due] (left : Entry → Nat) (falls : ∀ entry, due entry → left (advance entry) < left entry) :
    Agenda Entry → Agenda Entry :=
  Loops.whileLoop (Ready queue due) (serve queue advance) (remaining left) (serve_falls queue advance due left falls)

theorem drain_exit [DecidablePred due] (left : Entry → Nat) (falls : ∀ entry, due entry → left (advance entry) < left entry)
    (agenda : Agenda Entry) : ¬Ready queue due (drain queue advance due left falls agenda) :=
  (Loops.while_loop_ends _ _ _ _ agenda).exit

theorem drain_keeps [DecidablePred due] (left : Entry → Nat) (falls : ∀ entry, due entry → left (advance entry) < left entry)
    (inv : Agenda Entry → Prop) (kept : ∀ agenda, Ready queue due agenda → inv agenda → inv (serve queue advance agenda))
    (agenda : Agenda Entry) (holds : inv agenda) : inv (drain queue advance due left falls agenda) :=
  (Loops.while_loop_ends _ _ _ _ agenda).invariant inv kept holds

theorem serve_due (agenda : Agenda Entry) (early : ∀ earlier later, key earlier ≤ key later → due later → due earlier)
    (ordered : Ordered key agenda) (ready : Ready queue due agenda) :
    ∀ served ∈ (serve queue advance agenda).log, due served := by
  intro served member
  obtain ⟨first, rest, now, perm, same⟩ := serve_ready queue advance due agenda ready
  rw [same] at member
  obtain before | last := List.mem_append.mp member
  · exact early served first (ordered.past served before first (perm.mem_iff.mpr List.mem_cons_self)) now
  · rwa [List.mem_singleton.mp last]

structure Served (key : Entry → Key) (advance : Entry → Entry) (due : Entry → Prop) (start : List Entry)
    (agenda : Agenda Entry) : Prop where
  ordered : Ordered key agenda
  progress : ∃ turns, Progress advance start turns agenda
  before : ∀ served ∈ agenda.log, due served
  after : ∀ waiting ∈ agenda.contents, ¬due waiting

theorem drained_served [DecidablePred due] (left : Entry → Nat)
    (falls : ∀ entry, due entry → left (advance entry) < left entry)
    (early : ∀ earlier later, key earlier ≤ key later → due later → due earlier)
    (later : ∀ entry, key entry ≤ key (advance entry)) (start : List Entry) (agenda : Agenda Entry)
    (ordered : Ordered key agenda) (progress : ∃ turns, Progress advance start turns agenda)
    (ready : Ready queue due agenda) :
    Served key advance due start (drain queue advance due left falls (serve queue advance agenda)) := by
  let inv := fun agenda => (Ordered key agenda ∧ ∃ turns, Progress advance start turns agenda) ∧
    ∀ served ∈ agenda.log, due served
  have step : ∀ agenda, Ready queue due agenda → Ordered key agenda → (∃ turns, Progress advance start turns agenda) →
      inv (serve queue advance agenda) := by
    intro agenda ready ordered progress
    obtain ⟨turns, progress⟩ := progress
    exact ⟨⟨serve_keeps_ordered queue advance agenda later ordered,
      serve_keeps_progress queue advance start turns agenda progress⟩, serve_due queue advance due agenda early ordered ready⟩
  obtain ⟨⟨ordered, progress⟩, before⟩ := drain_keeps queue advance due left falls inv
    (fun agenda ready kept => step agenda ready kept.1.1 kept.1.2) _ (step agenda ready ordered progress)
  exact ⟨ordered, progress, before, not_ready_none_due queue due _ early (drain_exit queue advance due left falls _)⟩

theorem served_log (count : Entry → Nat) (counts : ∀ entry turn, turn < count entry ↔ due (advance^[turn] entry))
    (start : List Entry) (agenda : Agenda Entry) (served : Served key advance due start agenda) :
    agenda.log.Perm (start.flatMap (fun entry => occurrences advance entry (count entry))) := by
  obtain ⟨turns, progress⟩ := served.progress
  have exact_count : ∀ turn ∈ turns, turn.2 = count turn.1 := by
    intro turn member
    apply le_antisymm
    · by_contra more
      have inside : advance^[count turn.1] turn.1 ∈ agenda.log := by
        apply progress.served.mem_iff.mpr
        exact List.mem_flatMap.mpr ⟨turn, member,
          List.mem_map.mpr ⟨count turn.1, List.mem_range.mpr (Nat.lt_of_not_le more), rfl⟩⟩
      exact lt_irrefl _ ((counts turn.1 _).mpr (served.before _ inside))
    · by_contra fewer
      have present : advance^[turn.2] turn.1 ∈ agenda.contents := by
        apply progress.waiting.mem_iff.mpr
        exact List.mem_map.mpr ⟨turn, member, rfl⟩
      exact served.after _ present ((counts turn.1 _).mp (Nat.lt_of_not_le fewer))
  refine progress.served.trans ?_
  refine List.Perm.trans ?_ (progress.started.symm.flatMap_right _)
  rw [List.flatMap_map, List.flatMap_congr (fun turn member => by rw [exact_count turn member])]

end Service

def popLeast (key : Entry → Key) : List Entry → Option (Entry × List Entry)
  | [] => none
  | entry :: rest =>
      match popLeast key rest with
      | none => some (entry, [])
      | some (first, others) => if key entry ≤ key first then some (entry, rest) else some (first, entry :: others)

theorem pop_least_none (key : Entry → Key) (contents : List Entry) (none : popLeast key contents = none) :
    contents = [] := by
  cases contents with
  | nil => rfl
  | cons entry rest =>
      rw [popLeast] at none
      split at none
      · cases none
      · split at none <;> cases none

theorem pop_least_some (key : Entry → Key) (contents : List Entry) (first : Entry) (rest : List Entry)
    (popped : popLeast key contents = some (first, rest)) :
    contents.Perm (first :: rest) ∧ ∀ other ∈ rest, key first ≤ key other := by
  induction contents generalizing first rest with
  | nil => cases popped
  | cons entry behind ih =>
      rw [popLeast] at popped
      split at popped
      · rename_i nothing
        cases popped
        rw [pop_least_none key behind nothing]
        exact ⟨.refl _, fun other member => nomatch member⟩
      · rename_i earliest others found
        obtain ⟨perm, before⟩ := ih earliest others found
        split at popped
        · rename_i first_of_all
          cases popped
          refine ⟨.refl _, ?_⟩
          intro other member
          obtain rfl | further := List.mem_cons.mp (perm.mem_iff.mp member)
          · exact first_of_all
          · exact first_of_all.trans (before other further)
        · rename_i not_first
          cases popped
          refine ⟨(perm.cons entry).trans (.swap first entry others), ?_⟩
          intro other member
          obtain rfl | further := List.mem_cons.mp member
          · exact (lt_of_not_ge not_first).le
          · exact before other further

def PriorityQueue.ofList (key : Entry → Key) : PriorityQueue key :=
  ⟨popLeast key, pop_least_none key, pop_least_some key⟩

end Agenda
