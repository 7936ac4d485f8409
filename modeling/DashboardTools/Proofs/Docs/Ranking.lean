import DashboardTools.Proofs.Docs.Lookup
import DashboardTools.Proofs.Text.Lowercase
import DashboardTools.Proofs.Text.Words

/-!
# The best matches

A section matches a query when a word of the query occurs in it. Its score is positive then and only
then, though the title is also looked at on its own: what occurs in the title alone occurs in the
whole. A search answers the matching sections that come first when higher scores precede lower ones
and equal scores follow the document. The sections are told apart by their places in the document,
since two of them may be the same.
-/

namespace DashboardTools.Docs

open DashboardTools.Text

/-- The text of a section in which words are looked for. -/
def Section.searched (entry : Section) : List Char :=
  lowercase (entry.title.toList ++ ' ' :: entry.content.toList)

/-- A section matches a query among those of a category, or of any: a word of the query, both in
lower case, occurs in it. -/
structure Matches (query : String) (category? : Option Category) (entry : Section) : Prop where
  category : ∀ category, category? = some category → entry.category = category
  word : ∃ word, IsWordOf (lowercase query.toList) word ∧ word <:+: entry.searched

/-- A term counts where it occurs. The boost for the title goes to no other term. -/
theorem termScore_pos_iff (entry : Section) (term : List Char) :
    0 < termScore entry term ↔ term <:+: entry.searched := by
  have counted := @countOccurrences_pos_iff term entry.searched
  rw [occursIn_iff] at counted
  have inTitle : occursIn term (lowercase entry.title.toList) = true → term <:+: entry.searched :=
    fun occurs => (occursIn_iff.mp occurs).trans (lowercase_before_space _ _).isInfix
  rw [← counted]
  unfold termScore
  constructor
  · intro positive
    by_cases occurs : occursIn term (lowercase entry.title.toList) = true
    · exact counted.mpr (inTitle occurs)
    · rw [if_neg occurs] at positive
      exact positive
  · exact fun positive => Nat.add_pos_left positive _

/-- A section scores for a query exactly when some word of the query occurs in what is searched of
it. -/
theorem score_pos_iff (entry : Section) (terms : List (List Char)) :
    0 < score entry terms ↔ ∃ term ∈ terms, term <:+: entry.searched := by
  induction terms with
  | nil => simp [score]
  | cons term terms inductionHypothesis =>
    have split : score entry (term :: terms) = termScore entry term + score entry terms := rfl
    rw [split, Nat.add_pos_iff_pos_or_pos, termScore_pos_iff, inductionHypothesis]
    simp

/-- The score for a query is positive where a word of the query occurs. -/
theorem score_queryTerms_pos_iff (query : String) (entry : Section) :
    0 < score entry (queryTerms query) ↔
      ∃ word, IsWordOf (lowercase query.toList) word ∧ word <:+: entry.searched := by
  rw [score_pos_iff]
  simp only [queryTerms, mem_words_iff]

/-- Among the sections of the category the score is positive for those that match. -/
theorem matches_iff (query : String) (category? : Option Category) (entry : Section) :
    Matches query category? entry ↔
      category?.all (· == entry.category) = true ∧ 0 < score entry (queryTerms query) := by
  have category : category?.all (· == entry.category) = true ↔
      ∀ category, category? = some category → entry.category = category := by
    cases category? with
    | none => simp only [Option.all_none, reduceCtorEq, false_implies, implies_true]
    | some category =>
      simp only [Option.all_some, beq_iff_eq, Option.some.injEq, forall_eq']
      exact eq_comm
  rw [category, score_queryTerms_pos_iff]
  exact ⟨fun found => ⟨found.category, found.word⟩, fun ⟨first, second⟩ => ⟨first, second⟩⟩

/-- Whether a section matches a query can be computed, by its area and by the words that occur in
it. -/
instance (query : String) (category? : Option Category) (entry : Section) :
    Decidable (Matches query category? entry) :=
  decidable_of_iff _ (matches_iff query category? entry).symm

section

variable {α : Type}

/-- In a list without repetitions two members stand in one order only. -/
theorem not_swapped_of_nodup {items : List α} (distinct : items.Nodup) {a b : α}
    (one : [a, b].Sublist items) : ¬ [b, a].Sublist items := by
  induction items with
  | nil => cases one
  | cons item items inductionHypothesis =>
    obtain ⟨fresh, others⟩ := List.nodup_cons.mp distinct
    intro other
    cases one with
    | cons _ later =>
      cases other with
      | cons _ swapped => exact inductionHypothesis others later swapped
      | cons_cons _ _ => exact fresh (later.subset (by simp))
    | cons_cons _ later =>
      cases other with
      | cons _ swapped => exact fresh (swapped.subset (by simp))
      | cons_cons _ _ => exact fresh (later.subset (by simp))

/-- Of two items in the order of their places, the one whose place is not higher comes first. -/
theorem pair_sublist_of_rising {place : α → Nat} {items : List α}
    (rising : items.Pairwise fun a b => place a < place b) {a b : α} (first : a ∈ items)
    (second : b ∈ items) (differ : a ≠ b) (lower : place a ≤ place b) : [a, b].Sublist items := by
  obtain ⟨before, after, rfl⟩ := List.append_of_mem first
  have apart := (List.pairwise_append.mp rising).2.2
  have later : b ∈ after := by
    rcases List.mem_append.mp second with inBefore | inRest
    · exact absurd (apart b inBefore a List.mem_cons_self) (Nat.not_lt_of_le lower)
    · exact (List.mem_cons.mp inRest).resolve_left fun same => differ same.symm
  have pair : [a, b].Sublist (a :: after) := (List.singleton_sublist.mpr later).cons_cons a
  exact pair.trans (List.sublist_append_right before _)

/-- Items in the order of their places that are sorted by falling rank: higher ranks come first, and
of equal ranks the item with the lower place. -/
theorem pairwise_mergeSort_rank (rank place : α → Nat) {items : List α}
    (rising : items.Pairwise fun a b => place a < place b) :
    (items.mergeSort fun a b => decide (rank b ≤ rank a)).Pairwise fun a b =>
      rank b < rank a ∨ rank a = rank b ∧ place a < place b := by
  have trans : ∀ a b c : α, decide (rank b ≤ rank a) = true → decide (rank c ≤ rank b) = true →
      decide (rank c ≤ rank a) = true := by
    simp only [decide_eq_true_eq]
    omega
  have total : ∀ a b : α, (decide (rank b ≤ rank a) || decide (rank a ≤ rank b)) = true := by
    simp only [Bool.or_eq_true, decide_eq_true_eq]
    omega
  have falling := List.pairwise_mergeSort trans total items
  have distinct : (items.mergeSort fun a b => decide (rank b ≤ rank a)).Nodup :=
    (List.mergeSort_perm items _).nodup_iff.mpr
      (rising.imp fun lower same => by rw [same] at lower; exact Nat.lt_irrefl _ lower)
  rw [List.pairwise_iff_forall_sublist] at falling ⊢
  intro a b pair
  have ranked : rank b ≤ rank a := of_decide_eq_true (falling pair)
  rcases Nat.lt_or_eq_of_le ranked with higher | same
  · exact .inl higher
  · -- Sorting keeps two items of equal rank as they were, so they cannot have been the other way.
    refine .inr ⟨same.symm, Nat.lt_of_not_le fun notLower => ?_⟩
    have isFirst : a ∈ items := List.mem_mergeSort.mp (pair.subset (by simp))
    have isSecond : b ∈ items := List.mem_mergeSort.mp (pair.subset (by simp))
    have differ : a ≠ b := List.pairwise_iff_forall_sublist.mp distinct pair
    have swapped := pair_sublist_of_rising rising isSecond isFirst differ.symm notLower
    have equal : decide (rank a ≤ rank b) = true := decide_eq_true (Nat.le_of_eq same.symm)
    exact not_swapped_of_nodup distinct pair
      (List.pair_sublist_mergeSort trans total equal swapped)

end

/-- The hit that a section makes, with the excerpt around the first term and the score of all
terms. -/
def Section.hit (terms : List (List Char)) (firstTerm : List Char) (entry : Section) : Hit where
  title := entry.title
  path := entry.path
  excerpt := .ofList (excerpt entry.content.toList firstTerm)
  category := entry.category
  relevance := score entry terms

/-- The matching sections with their places, in the order of the document. -/
def placedMatches (sections : List Section) (query : String) (category? : Option Category) :
    List (Section × Nat) :=
  sections.zipIdx.filter fun placed => Matches query category? placed.1

/-- The matching sections with their places, the best first. Sections of one score stay in the order
of the text. -/
def ranked (sections : List Section) (query : String) (category? : Option Category) :
    List (Section × Nat) :=
  (placedMatches sections query category?).mergeSort fun a b =>
    decide (score b.1 (queryTerms query) ≤ score a.1 (queryTerms query))

/-- Of two sections with their places the first is the better match for a query: its score is
higher, or it is the same and the section comes earlier. -/
def Precedes (query : String) (first second : Section × Nat) : Prop :=
  score second.1 (queryTerms query) < score first.1 (queryTerms query) ∨
    score first.1 (queryTerms query) = score second.1 (queryTerms query) ∧ first.2 < second.2

section

variable (sections : List Section) (query : String) (category? : Option Category)

/-- Without their places, the matches are the matching sections in their order. -/
theorem map_placedMatches : (placedMatches sections query category?).map (·.1) =
    sections.filter (Matches query category? ·) := by
  have whole := List.zipIdx_map_fst 0 sections
  conv => rhs; rw [← whole, List.filter_map]
  rfl

/-- The places of the matches rise, since the matches are taken in the order of the sections. -/
theorem placedMatches_rising :
    (placedMatches sections query category?).Pairwise fun a b => a.2 < b.2 := by
  have places : (sections.zipIdx.map (·.2)).Pairwise (· < ·) := by
    rw [List.zipIdx_map_snd]
    exact List.pairwise_lt_range' 1
  exact (List.pairwise_map.mp places).filter _

/-- Ranked matches stand in the order of the rank: the better score first, and the earlier place
first where the scores agree. -/
theorem ranked_ordered : (ranked sections query category?).Pairwise (Precedes query) :=
  pairwise_mergeSort_rank (fun placed : Section × Nat => score placed.1 (queryTerms query)) (·.2)
    (placedMatches_rising sections query category?)

/-- The hits of a category before they are sorted are those of the sections that match. -/
theorem filterMap_hit? (firstTerm : List Char) :
    (sections.filter fun entry => category?.all (· == entry.category)).filterMap
        (Section.hit? (queryTerms query) firstTerm) =
      (sections.filter (Matches query category? ·)).map
        (Section.hit (queryTerms query) firstTerm) := by
  rw [← List.filterMap_eq_map, List.filterMap_filter, List.filterMap_filter]
  congr 1
  funext entry
  have isMatch := matches_iff query category? entry
  by_cases searched : category?.all (· == entry.category) = true
  · by_cases positive : 0 < score entry (queryTerms query)
    · have found := isMatch.mpr ⟨searched, positive⟩
      simp [searched, found, Section.hit?, positive, Section.hit]
    · have lost : ¬ Matches query category? entry := fun found => positive (isMatch.mp found).2
      simp [searched, lost, Section.hit?, positive]
  · have lost : ¬ Matches query category? entry := fun found => searched (isMatch.mp found).1
    simp [searched, lost]

/-- A search answers the hits of the matching sections that are ranked first. -/
theorem search_eq (limit : Nat) : search sections query category? limit =
    ((ranked sections query category?).take limit).map fun placed =>
      placed.1.hit (queryTerms query) ((queryTerms query).headD []) := by
  unfold search
  cases terms : queryTerms query with
  | nil =>
    have nothing : ranked sections query category? = [] := by
      rw [ranked, placedMatches, List.filter_eq_nil_iff.mpr, List.mergeSort_nil]
      intro placed _
      rw [decide_eq_true_eq, matches_iff, terms]
      exact fun impossible => Nat.lt_irrefl _ impossible.2
    simp [nothing]
  | cons firstTerm otherTerms =>
    have sorted : ((placedMatches sections query category?).map fun placed =>
        placed.1.hit (queryTerms query) firstTerm).mergeSort
          (fun a b => decide (b.relevance ≤ a.relevance)) =
        (ranked sections query category?).map fun placed =>
          placed.1.hit (queryTerms query) firstTerm := by
      symm
      apply List.map_mergeSort
      exact fun _ _ _ _ => rfl
    have unsorted := filterMap_hit? sections query category? firstTerm
    rw [← map_placedMatches, List.map_map, terms] at unsorted
    rw [terms] at sorted
    dsimp only
    rw [unsorted, List.headD_cons, List.map_take, ← sorted]
    rfl

end

/-- Hits are the best matches of a query, at most `limit` many: each is the one of a chosen section,
and the choice is made by score and then by place. -/
structure AreBest (sections : List Section) (query : String) (category? : Option Category)
    (limit : Nat) (chosen : List (Section × Nat)) (hits : List Hit) : Prop where
  /-- The hits show the chosen sections, in their order, with the scores of these. -/
  shown : List.Forall₂ (fun placed hit => Shows placed.1 hit ∧
    hit.relevance = score placed.1 (queryTerms query)) chosen hits
  /-- What is chosen stands in the document, matches and is chosen once. -/
  matching : ∀ placed ∈ chosen, placed ∈ sections.zipIdx ∧ Matches query category? placed.1
  distinct : chosen.Nodup
  /-- As many are chosen as match and may be chosen. -/
  number : hits.length = min limit (sections.filter (Matches query category? ·)).length
  /-- The better match is answered first, and no match that is left out is better. -/
  ordered : chosen.Pairwise (Precedes query)
  leftOut : ∀ placed ∈ sections.zipIdx, Matches query category? placed.1 → placed ∉ chosen →
    ∀ other ∈ chosen, Precedes query other placed

/-- Nothing precedes itself in the rank, since neither its score nor its place is ahead of
itself. -/
theorem Precedes.irrefl {query : String} {placed : Section × Nat}
    (precedes : Precedes query placed placed) : False := by
  rcases precedes with higher | ⟨_, earlier⟩
  · exact Nat.lt_irrefl _ higher
  · exact Nat.lt_irrefl _ earlier

/-- Ranking drops nothing and adds nothing. A place holds a ranked match exactly when its section
matches. -/
theorem mem_ranked {sections : List Section} {query : String} {category? : Option Category}
    (placed : Section × Nat) : placed ∈ ranked sections query category? ↔
      placed ∈ sections.zipIdx ∧ Matches query category? placed.1 := by
  simp [ranked, placedMatches]

/-- What a search answers is the best of the ranked matches, as many as the limit allows, each with
its own hit. -/
theorem areBest_search (sections : List Section) (query : String) (category? : Option Category)
    (limit : Nat) : AreBest sections query category? limit
      ((ranked sections query category?).take limit) (search sections query category? limit) where
  shown := by
    rw [search_eq, List.forall₂_map_right_iff, List.forall₂_same]
    exact fun placed _ => ⟨⟨rfl, rfl, rfl⟩, rfl⟩
  matching placed member := (mem_ranked placed).mp (List.mem_of_mem_take member)
  distinct := by
    have ordered := (ranked_ordered sections query category?).sublist (List.take_sublist limit _)
    apply List.Pairwise.imp _ ordered
    rintro placed _ precedes rfl
    exact precedes.irrefl
  number := by
    have all := congrArg List.length (map_placedMatches sections query category?)
    rw [List.length_map] at all
    rw [search_eq, List.length_map, List.length_take, ranked, List.length_mergeSort, all]
  ordered := (ranked_ordered sections query category?).sublist (List.take_sublist limit _)
  leftOut placed stands isMatch missing other chosen := by
    have ordered := ranked_ordered sections query category?
    rw [← List.take_append_drop limit (ranked sections query category?), List.pairwise_append]
      at ordered
    have there := (mem_ranked placed).mpr ⟨stands, isMatch⟩
    rw [← List.take_append_drop limit (ranked sections query category?)] at there
    have later := (List.mem_append.mp there).resolve_left missing
    exact ordered.2.2 other chosen placed later

/-- A search answers the best matches among the sections, and a search of the documentation those
among its sections, five where it asks for none or names no number. The sections of the category
that match are those whose score is positive; a query without words has no hits. -/
theorem best_matches_are_answered (sections : List Section) (query : String)
    (category? : Option Category) :
    (∀ limit, ∃ chosen,
      AreBest sections query category? limit chosen (search sections query category? limit)) ∧
    (∀ raw limit?, ∃ chosen, AreBest (parseSections raw) query category?
      (if limit?.getD 0 = 0 then 5 else limit?.getD 0) chosen
      (searchText raw query category? limit?)) ∧
    (∀ entry, (∀ category, category? = some category → entry.category = category) →
      (0 < score entry (queryTerms query) ↔ Matches query category? entry)) ∧
    ((∀ word, ¬ IsWordOf (lowercase query.toList) word) →
      ∀ limit, search sections query category? limit = []) := by
  refine ⟨fun limit => ⟨_, areBest_search sections query category? limit⟩, fun raw limit? => ?_,
    fun entry inCategory => ?_, fun wordless limit => ?_⟩
  · have limits : effectiveLimit limit? = if limit?.getD 0 = 0 then 5 else limit?.getD 0 := by
      rcases limit? with _ | _ | limit <;> rfl
    rw [← limits]
    exact ⟨_, areBest_search (parseSections raw) query category? (effectiveLimit limit?)⟩
  · rw [score_queryTerms_pos_iff]
    exact ⟨fun found => ⟨inCategory, found⟩, fun found => found.word⟩
  · have number := (areBest_search sections query category? limit).number
    have nothing : sections.filter (Matches query category? ·) = [] := by
      rw [List.filter_eq_nil_iff]
      intro entry _
      rw [decide_eq_true_eq]
      exact fun found => found.word.elim fun word isWord => wordless word isWord.1
    rw [nothing, List.length_nil, Nat.min_zero] at number
    exact List.length_eq_zero_iff.mp number

end DashboardTools.Docs
