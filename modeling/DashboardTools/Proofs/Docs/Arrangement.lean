import DashboardTools.Proofs.Docs.Ranking
import DashboardTools.Proofs.Text.Runs

/-!
# The arrangement of a query's words

A search reads a query as the runs of its lowercase form between blanks. Each of them adds to the
score of a section on its own, so their order matters for no score, and with the scores the choice
of sections and their order are settled. The word that comes first is looked at once more, for the
excerpts. Nothing else of the query is read: not its letter case, not the blanks.
-/

namespace DashboardTools.Docs

open DashboardTools.Text

/-- The words of a query in their order: the runs of its lowercase form between blanks. -/
def AreWordsOf (query : String) (words : List (List Char)) : Prop :=
  FallsInto isBlank (lowercase query.toList) words

/-- The relation to a query's words is the function that reads them: the words are lowercased pieces
between blanks. -/
theorem areWordsOf_iff (query : String) (words : List (List Char)) :
    AreWordsOf query words ↔ queryTerms query = words :=
  fallsInto_iff (lowercase query.toList) words

/-- What a word adds to a score does not depend on the words before it. -/
theorem score_perm {terms others : List (List Char)} (rearranged : terms.Perm others)
    (entry : Section) : score entry terms = score entry others :=
  rearranged.foldr_eq' (fun first _ second _ rest =>
    Nat.add_left_comm (termScore entry second) (termScore entry first) rest) 0

section

variable {query other : String} (rearranged : (queryTerms query).Perm (queryTerms other))

include rearranged

/-- Which sections match a query does not depend on the order of its words. -/
theorem matches_perm (category? : Option Category) (entry : Section) :
    Matches query category? entry ↔ Matches other category? entry := by
  rw [matches_iff, matches_iff, score_perm rearranged]

/-- The matches and their places among the sections do not depend on the order of the words. -/
theorem placedMatches_perm (sections : List Section) (category? : Option Category) :
    placedMatches sections query category? = placedMatches sections other category? := by
  unfold placedMatches
  congr 1
  funext placed
  exact decide_eq_decide.mpr (matches_perm rearranged category? placed.1)

/-- The same sections match, and each has the same rank. -/
theorem ranked_perm (sections : List Section) (category? : Option Category) :
    ranked sections query category? = ranked sections other category? := by
  unfold ranked
  rw [placedMatches_perm rearranged]
  congr 1
  funext first second
  rw [score_perm rearranged, score_perm rearranged]

end

/-- Two hits are alike in everything but what they show of the content. -/
structure AlikeButExcerpt (first second : Hit) : Prop where
  title : first.title = second.title
  path : first.path = second.path
  category : first.category = second.category
  relevance : first.relevance = second.relevance

/-- Queries with the same words in another order find the same sections in the same order. Only the
excerpts may differ. -/
theorem search_alike {query other : String}
    (rearranged : (queryTerms query).Perm (queryTerms other)) (sections : List Section)
    (category? : Option Category) (limit : Nat) :
    List.Forall₂ AlikeButExcerpt (search sections query category? limit)
      (search sections other category? limit) := by
  rw [search_eq, search_eq, ranked_perm rearranged, List.forall₂_map_left_iff,
    List.forall₂_map_right_iff, List.forall₂_same]
  exact fun placed _ => ⟨rfl, rfl, rfl, score_perm rearranged placed.1⟩

/-- With the same first word the excerpts are the same too. -/
theorem search_perm {query other : String}
    (rearranged : (queryTerms query).Perm (queryTerms other))
    (first : (queryTerms query).head? = (queryTerms other).head?) (sections : List Section)
    (category? : Option Category) (limit : Nat) :
    search sections query category? limit = search sections other category? limit := by
  have sameFirst : (queryTerms query).headD [] = (queryTerms other).headD [] := by
    rw [List.headD_eq_head?_getD, List.headD_eq_head?_getD, first]
  rw [search_eq, search_eq, ranked_perm rearranged, sameFirst]
  congr 1
  funext placed
  rw [Section.hit, Section.hit, score_perm rearranged]

/-- Two queries of the same words, however these are ordered, written and set apart, are answered by
hits of the same sections in the same order, alike in all but the excerpts; and by the same hits, if
they begin with the same word. -/
theorem arrangement_leaves_hits (sections : List Section) (category? : Option Category)
    (limit : Nat) (query other : String) (words others : List (List Char))
    (areWords : AreWordsOf query words) (areOthers : AreWordsOf other others)
    (rearranged : words.Perm others) :
    (∃ chosen,
      AreBest sections query category? limit chosen (search sections query category? limit) ∧
      AreBest sections other category? limit chosen (search sections other category? limit)) ∧
    List.Forall₂ AlikeButExcerpt (search sections query category? limit)
      (search sections other category? limit) ∧
    (words.head? = others.head? →
      search sections query category? limit = search sections other category? limit) := by
  rw [areWordsOf_iff] at areWords areOthers
  subst areWords areOthers
  refine ⟨⟨_, areBest_search sections query category? limit, ?_⟩,
    search_alike rearranged sections category? limit,
    fun first => search_perm rearranged first sections category? limit⟩
  rw [ranked_perm rearranged]
  exact areBest_search sections other category? limit

/-- Two sections, each with one of the words that are searched for. -/
def streamSections : List Section :=
  [⟨"/guides/streams", "Streams", "Tokens arrive one by one.", .guides⟩,
   ⟨"/guides/calls", "Calls", "Every call goes to the API.", .guides⟩]

/-- Two spellings of one query, with other blanks, letters and order, have words that are
permutations of each other and find the same sections. -/
theorem swapped_words_leave_hits :
    AreWordsOf "Stream  API" ["stream".toList, "api".toList] ∧
    AreWordsOf "\tapi STREAM " ["api".toList, "stream".toList] ∧
    ["stream".toList, "api".toList].Perm ["api".toList, "stream".toList] ∧
    List.Forall₂ AlikeButExcerpt (search streamSections "Stream  API" none 5)
      (search streamSections "\tapi STREAM " none 5) := by
  have areWords : AreWordsOf "Stream  API" ["stream".toList, "api".toList] :=
    (areWordsOf_iff _ _).mpr (by decide +kernel)
  have areOthers : AreWordsOf "\tapi STREAM " ["api".toList, "stream".toList] :=
    (areWordsOf_iff _ _).mpr (by decide +kernel)
  have rearranged : ["stream".toList, "api".toList].Perm ["api".toList, "stream".toList] :=
    List.Perm.swap _ _ _
  exact ⟨areWords, areOthers, rearranged, (arrangement_leaves_hits streamSections none 5
    "Stream  API" "\tapi STREAM " _ _ areWords areOthers rearranged).2.1⟩

end DashboardTools.Docs
