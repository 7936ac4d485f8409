import DashboardTools.Proofs.Url.Ordering

/-!
# Paths appended to an address

A base is an address with a scheme, a host and perhaps a path, but without a query and a fragment.
A path that is appended to it is read after the segments of the base. The reader of the whole does
not count tabs and line breaks, nor blanks and control characters at its end.
-/

namespace DashboardTools.Url

open DashboardTools.Text

/-- A character of a text without a mark is not that mark. -/
theorem ne_of_absent {mark : Char} {text : List Char} (absent : mark ∉ text) :
    ∀ c ∈ text, (c != mark) = true := by
  intro c member
  simp only [bne_iff_ne, ne_eq]
  rintro rfl
  exact absent member

/-- A text without a mark is not split. All of it stands before the mark. -/
theorem splitAt?_of_not_mem {mark : Char} {text : List Char} (absent : mark ∉ text) :
    splitAt? mark text = (text, none) := by
  have nothing : (text ++ []).dropWhile (· != mark) = [] :=
    List.dropWhile_append_of_pos (ne_of_absent absent)
  rw [List.append_nil] at nothing
  rw [splitAt?, nothing]

/-- A text is split at the first mark: what stands before it has none. -/
theorem splitAt?_append {mark : Char} {before : List Char} (absent : mark ∉ before)
    (after : List Char) : splitAt? mark (before ++ mark :: after) = (before, some after) := by
  have others := ne_of_absent absent
  rw [splitAt?, List.dropWhile_append_of_pos others, List.takeWhile_append_of_pos others]
  simp

/-- What stands before a character that stays is not dropped at the end. -/
theorem dropEnd_append {inClass : Char → Bool} {c : Char} (stays : inClass c = false)
    (before rest : List Char) :
    dropEnd inClass (before ++ c :: rest) = before ++ c :: dropEnd inClass rest := by
  have reversed : (before ++ c :: rest).reverse = rest.reverse ++ c :: before.reverse := by simp
  rw [dropEnd, reversed, List.dropWhile_append]
  split
  next nothing =>
    have gone : rest.reverse.dropWhile inClass = [] := by simpa using nothing
    simp [dropEnd, gone, stays]
  next => simp [dropEnd]

/-- Texts that follow a separator each, the first one too. -/
def joined (texts : List (List Char)) : List Char := texts.flatMap ('/' :: ·)

/-- Joining two lists of texts is joining each and putting the results together. -/
theorem joined_append (front back : List (List Char)) :
    joined (front ++ back) = joined front ++ joined back := List.flatMap_append

/-- Taking the breaks out of joined texts is joining the texts without their breaks. -/
theorem plain_joined (texts : List (List Char)) : plain (joined texts) = joined (texts.map plain) := by
  induction texts with
  | nil => rfl
  | cons text rest inductionHypothesis =>
    have slash : plain ('/' :: text) = '/' :: plain text := rfl
    rw [joined, List.flatMap_cons, plain_append, slash]
    exact congrArg _ inductionHypothesis

/-- The pieces of joined texts are the pieces of each. -/
theorem fields_joined (first : List Char) (texts : List (List Char)) :
    fields isSlash (first ++ joined texts) =
      fields isSlash first ++ texts.flatMap (fields isSlash) := by
  induction texts generalizing first with
  | nil => simp [joined]
  | cons text rest inductionHypothesis =>
    have slash : isSlash '/' = true := rfl
    have parted := fields_append slash first (text ++ joined rest)
    rw [inductionHypothesis] at parted
    exact parted

/-- Texts split at slashes leave at least one piece if there is at least one text. -/
theorem flatMap_fields_ne_nil {texts : List (List Char)} (nonempty : texts ≠ []) :
    texts.flatMap (fields isSlash) ≠ [] := by
  cases texts with
  | nil => exact absurd rfl nonempty
  | cons text rest => simp [fields_ne_nil]

/-- Whether a character does not count at the end of an address. -/
def isLow (c : Char) : Bool := decide (c.toNat ≤ 0x20)

/-- A text as it is read where it may be the last of an address. -/
def seen (isLast : Bool) (text : List Char) : List Char :=
  plain (if isLast then dropEnd isLow text else text)

/-- Texts as they are read at the end of an address. -/
def seenAll : List (List Char) → List (List Char)
  | [] => []
  | text :: rest => seen rest.isEmpty text :: seenAll rest

/-- There is something to read at the end of an address exactly when there are texts there. -/
@[simp] theorem seenAll_eq_nil {texts : List (List Char)} : seenAll texts = [] ↔ texts = [] := by
  cases texts <;> simp [seenAll]

/-- The texts as they are read have no breaks in them. -/
theorem plain_of_mem_seenAll {texts : List (List Char)} :
    ∀ text ∈ seenAll texts, plain text = text := by
  induction texts with
  | nil => simp [seenAll]
  | cons first rest inductionHypothesis =>
    intro text member
    rcases List.mem_cons.mp member with rfl | later
    · exact plain_plain _
    · exact inductionHypothesis text later

/-- Only the last of some texts is cut at the end of an address. -/
theorem dropEnd_joined {texts : List (List Char)} (nonempty : texts ≠ []) (before : List Char) :
    dropEnd isLow (before ++ joined texts) = before ++ dropEnd isLow (joined texts) := by
  cases texts with
  | nil => exact absurd rfl nonempty
  | cons text rest =>
    have stays : isLow '/' = false := rfl
    have parted := dropEnd_append stays before (text ++ joined rest)
    have alone := dropEnd_append stays [] (text ++ joined rest)
    rw [List.nil_append, List.nil_append] at alone
    rw [← alone] at parted
    exact parted

/-- What is read of joined texts, without breaks and without what does not count at the end, is the
texts as they are read, joined. -/
theorem plain_dropEnd_joined (texts : List (List Char)) :
    plain (dropEnd isLow (joined texts)) = joined (seenAll texts) := by
  induction texts with
  | nil => rfl
  | cons text rest inductionHypothesis =>
    have slash (left : List Char) : plain ('/' :: left) = '/' :: plain left := rfl
    cases rest with
    | nil =>
      have stays : isLow '/' = false := rfl
      have parted := dropEnd_append stays [] text
      rw [List.nil_append, List.nil_append] at parted
      simp only [joined, seenAll, seen, List.flatMap_cons, List.flatMap_nil, List.append_nil,
        List.isEmpty_nil, if_true]
      rw [parted, slash]
    | cons next more =>
      have whole : joined (text :: next :: more) = ('/' :: text) ++ joined (next :: more) := rfl
      rw [whole, dropEnd_joined (by simp), plain_append, slash, inductionHypothesis]
      rfl

/-- The address that is read of a place has the scheme it was read under. -/
theorem readPlace?_scheme {scheme text : List Char} {ended : Bool} {url : Url}
    (read : readPlace? scheme text ended = some url) : url.scheme = scheme := by
  unfold readPlace? at read
  dsimp only at read
  split at read
  · obtain ⟨authority, _, rfl⟩ := Option.map_eq_some_iff.mp read
    rfl
  · split at read
    · obtain ⟨authority, _, rfl⟩ := Option.map_eq_some_iff.mp read
      rfl
    · obtain rfl := Option.some.inj read
      rfl
    · obtain rfl := Option.some.inj read
      rfl

/-- An address read of a file's host has the scheme of files. -/
theorem readFileHost?_scheme {text : List Char} {url : Url} (read : readFileHost? text = some url) :
    url.scheme = fileScheme := by
  unfold readFileHost? at read
  dsimp only at read
  split at read
  · obtain rfl := Option.some.inj read
    rfl
  · split at read
    · obtain rfl := Option.some.inj read
      rfl
    · obtain ⟨host, _, rfl⟩ := Option.map_eq_some_iff.mp read
      split <;> rfl

/-- An address read of a file has the scheme of files. -/
theorem readFile?_scheme {text : List Char} {url : Url} (read : readFile? text = some url) :
    url.scheme = fileScheme := by
  unfold readFile? at read
  dsimp only at read
  split at read
  · obtain rfl := Option.some.inj read
    rfl
  · split at read
    · split at read
      · obtain rfl := Option.some.inj read
        rfl
      · split at read
        · exact readFileHost?_scheme read
        · obtain rfl := Option.some.inj read
          rfl
    · obtain rfl := Option.some.inj read
      rfl

/-- The port that is split off consists of characters of the text. -/
theorem splitPort_subset (bracketed : Bool) (text : List Char) :
    ∀ rest, (splitPort bracketed text).2 = some rest → ∀ c ∈ rest, c ∈ text := by
  induction text generalizing bracketed with
  | nil => simp [splitPort]
  | cons d more inductionHypothesis =>
    intro rest
    unfold splitPort
    split
    · intro same c member
      obtain rfl := Option.some.inj same
      exact List.mem_cons_of_mem _ member
    · intro same c member
      exact List.mem_cons_of_mem _ (inductionHypothesis _ rest same c member)

/-- The host that is split off from a user consists of characters of the text. -/
theorem splitUser_subset (text : List Char) : ∀ c ∈ (splitUser text).1, c ∈ text := by
  intro c member
  unfold splitUser at member
  split at member
  · exact member
  · have taken := List.mem_reverse.mp member
    exact List.mem_reverse.mp ((List.takeWhile_sublist _).mem taken)

/-- An authority without separators ends with its port, so nothing of it is left for a path. -/
theorem readAuthority?_rest {scheme text : List Char} {followed : Bool} {authority : Authority}
    (noSlash : ∀ c ∈ text, isSlash c = false)
    (read : readAuthority? scheme text followed = some authority) : authority.rest = [] := by
  unfold readAuthority? at read
  dsimp only at read
  split at read
  · split at read
    · cases read
    · obtain rfl := Option.some.inj read
      rfl
  · have portText : ∀ c ∈ (splitPort false (splitUser text).1).2.getD [], (c != '\\') = true := by
      intro c member
      cases port : (splitPort false (splitUser text).1).2 with
      | none => simp [port] at member
      | some rest =>
        rw [port] at member
        have inText := splitUser_subset text c (splitPort_subset _ _ rest port c member)
        have stays := noSlash c inText
        rw [bne_iff_ne]
        rintro rfl
        cases stays
    have ends : ((splitPort false (splitUser text).1).2.getD [] ++ []).dropWhile (· != '\\') = [] :=
      List.dropWhile_append_of_pos portText
    split at read
    · simp only [Option.bind_eq_bind, Option.bind_eq_some_iff, Option.some.injEq] at read
      obtain ⟨host, _, port?, _, rfl⟩ := read
      simpa using ends
    · simp only [Option.bind_eq_bind, Option.bind_eq_some_iff, Option.some.injEq] at read
      obtain ⟨host, _, port?, _, rfl⟩ := read
      simpa using ends

/-- An address that paths are appended to, in its parts: a scheme, a host with what belongs to it,
and the texts of its path. It has neither a query nor a fragment. -/
structure BaseAddress where
  scheme : List Char
  authority : List Char
  /-- What follows each slash. -/
  path : List (List Char)
  startsScheme : scheme.head?.any Char.isAlpha = true
  isScheme : scheme.all isSchemeChar = true
  /-- The authority names something. -/
  named : plain authority ≠ []
  noSlash : ∀ c ∈ authority, isSlash c = false
  unmarked : ∀ c ∈ authority ++ joined path, c ≠ '?' ∧ c ≠ '#'

namespace BaseAddress

variable (base : BaseAddress)

/-- The address as it is written: scheme, authority and path, with their separators. -/
def text : List Char := base.scheme ++ ':' :: '/' :: '/' :: (base.authority ++ joined base.path)

/-- The path of the address, ready for more, with its last segment in front. -/
def ordered : OrderedPath :=
  OrderedPath.addFront ⟨[], false⟩ ((base.path.map plain).flatMap (fields isSlash))

/-- The segments of the address in the order in which they are written. -/
def segments : List (List Char) := base.ordered.segments.reverse

/-- The ordered path of a base address stands: each of its segments is read as it is written. -/
theorem ordered_stands : base.ordered.Stands := by
  have empty : OrderedPath.Stands ⟨[], false⟩ := fun segment member => absurd member List.not_mem_nil
  exact empty.addFront OrderedPath.noSlash_of_mem_pieces

/-- The scheme of a longer address is the one of its base. -/
theorem takeScheme?_append (rest : List Char) :
    takeScheme? (base.scheme ++ ':' :: rest) = some (base.scheme.map Char.toLower, rest) := by
  have schemeChar := List.all_eq_true.mp base.isScheme
  have noColon : ':' ∉ base.scheme := by
    intro member
    exact absurd (schemeChar ':' member) (by decide)
  have whole : plain base.scheme = base.scheme := by
    refine List.filter_eq_self.mpr fun c member => ?_
    cases break? : isBreak c with
    | false => rfl
    | true =>
      have one : (c = '\t' ∨ c = '\n') ∨ c = '\r' := by simpa [isBreak] using break?
      have never := schemeChar c member
      rcases one with (rfl | rfl) | rfl <;> cases never
  simp only [takeScheme?, splitAt?_append noColon, whole, base.startsScheme, base.isScheme,
    Bool.and_self, if_true, Option.map_some]

/-- The text of a base address begins with a character that counts, the first letter of its
scheme. -/
theorem text_head : ∃ first rest, base.text = first :: rest ∧ isLow first = false := by
  have starts := base.startsScheme
  cases scheme : base.scheme with
  | nil => simp [scheme] at starts
  | cons first rest =>
    rw [scheme] at starts
    refine ⟨first, _, by rw [text, scheme]; rfl, ?_⟩
    have letter : first.isAlpha = true := by simpa using starts
    have none : ∀ n < 0x21, (Char.ofNat n).isAlpha = false := by decide
    rw [isLow, decide_eq_false_iff_not]
    intro low
    have never := none first.toNat (by omega)
    rw [Char.ofNat_toNat, letter] at never
    cases never

/-- The text of a base address has neither a question mark nor a number sign in it. -/
theorem text_unmarked : ∀ c ∈ base.text, c ≠ '?' ∧ c ≠ '#' := by
  intro c member
  simp only [text, List.mem_append, List.mem_cons] at member
  rcases member with inScheme | rfl | rfl | rfl | after
  · have schemeChar := List.all_eq_true.mp base.isScheme c inScheme
    constructor
    · rintro rfl
      cases schemeChar
    · rintro rfl
      cases schemeChar
  · decide
  · decide
  · decide
  · exact base.unmarked c (List.mem_append.mpr after)

end BaseAddress

/-- The path of a web address that names a host, when texts follow. -/
theorem readPlace?_path {scheme host : List Char} {texts : List (List Char)} {ended : Bool} {url : Url}
    (web : isWebScheme scheme = true) (named : host ≠ []) (noSlash : ∀ c ∈ host, isSlash c = false)
    (nonempty : texts ≠ [])
    (read : readPlace? scheme ('/' :: '/' :: (host ++ joined texts)) ended = some url) :
    url.path = .segments
      (OrderedPath.addAll false ⟨[], false⟩ (texts.flatMap (fields isSlash))).segments.reverse := by
  cases texts with
  | nil => exact absurd rfl nonempty
  | cons first more =>
    have slash : isSlash '/' = true := rfl
    have others : ∀ c ∈ host, (!isSlash c) = true := fun c member => by simp [noSlash c member]
    have atHost : ('/' :: '/' :: (host ++ joined (first :: more))).dropWhile isSlash =
        host ++ joined (first :: more) := by
      cases host with
      | nil => exact absurd rfl named
      | cons c rest => simp [slash, noSlash c (by simp)]
    have place : (host ++ joined (first :: more)).takeWhile (fun c => !isSlash c) = host := by
      rw [List.takeWhile_append_of_pos others]
      simp [joined, slash]
    have path : (host ++ joined (first :: more)).dropWhile (fun c => !isSlash c) =
        '/' :: (first ++ joined more) := by
      rw [List.dropWhile_append_of_pos others]
      simp [joined, slash]
    simp only [readPlace?, web, if_true, atHost, place, path, Option.map_eq_some_iff] at read
    obtain ⟨authority, named, rfl⟩ := read
    rw [readAuthority?_rest noSlash named]
    simp only [List.nil_append, readPath, slash, if_true, readSegments, OrderedPath.read,
      fields_joined, List.flatMap_cons]

namespace BaseAddress

variable {base : BaseAddress} {texts : List (List Char)}

/-- What is cut off a longer address is cut off its texts. -/
theorem trimBy_append (nonempty : texts ≠ []) :
    trimBy isLow (base.text ++ joined texts) = base.text ++ dropEnd isLow (joined texts) := by
  obtain ⟨first, rest, shape, stays⟩ := base.text_head
  have begins : (base.text ++ joined texts).dropWhile isLow = base.text ++ joined texts := by
    rw [shape]
    simp [stays]
  rw [trimBy, begins, dropEnd_joined nonempty]

/-- The place that a longer address names once breaks are left out. -/
theorem plain_place : plain ('/' :: '/' :: (base.authority ++ joined base.path) ++
    dropEnd isLow (joined texts)) =
      '/' :: '/' :: (plain base.authority ++ joined (base.path.map plain ++ seenAll texts)) := by
  have slashes : plain ('/' :: '/' :: (base.authority ++ joined base.path)) =
      '/' :: '/' :: plain (base.authority ++ joined base.path) := rfl
  rw [plain_append, plain_dropEnd_joined, joined_append, slashes, plain_append, plain_joined]
  simp

/-- A web address that begins with a base has the path of the base, followed by what is read of the
texts after it. -/
theorem path_of_parse? (nonempty : texts ≠ []) (unmarked : ∀ c ∈ joined texts, c ≠ '?' ∧ c ≠ '#')
    {url : Url} (parsed : parse? (base.text ++ joined texts) = some url)
    (web : isWebScheme url.scheme = true) :
    url.path = .segments
      (base.ordered.addAll false ((seenAll texts).flatMap (fields isSlash))).segments.reverse := by
  have noMark : ∀ c ∈ base.text ++ dropEnd isLow (joined texts), c ≠ '?' ∧ c ≠ '#' := by
    intro c member
    rcases List.mem_append.mp member with inBase | after
    · exact base.text_unmarked c inBase
    · have shorter := dropEnd_prefix isLow (joined texts)
      exact unmarked c (shorter.sublist.mem after)
  have noHash : splitAt? '#' (base.text ++ dropEnd isLow (joined texts)) =
      (base.text ++ dropEnd isLow (joined texts), none) :=
    splitAt?_of_not_mem fun member => (noMark _ member).2 rfl
  have noQuestion : splitAt? '?' (base.text ++ dropEnd isLow (joined texts)) =
      (base.text ++ dropEnd isLow (joined texts), none) :=
    splitAt?_of_not_mem fun member => (noMark _ member).1 rfl
  have scheme : takeScheme? (base.text ++ dropEnd isLow (joined texts)) =
      some (base.scheme.map Char.toLower,
        '/' :: '/' :: (base.authority ++ joined base.path) ++ dropEnd isLow (joined texts)) := by
    rw [text, List.append_assoc, List.cons_append, takeScheme?_append]
  have cut : trimBy (fun c => decide (c.toNat ≤ 0x20)) (base.text ++ joined texts) =
      base.text ++ dropEnd isLow (joined texts) := trimBy_append nonempty
  unfold parse? at parsed
  simp only [cut, noHash, noQuestion, scheme, plain_place] at parsed
  obtain ⟨read, made, rfl⟩ := Option.map_eq_some_iff.mp parsed
  dsimp only at web ⊢
  split at made
  · rw [readFile?_scheme made] at web
    cases web
  · rw [readPlace?_scheme made] at web
    have noSlash : ∀ c ∈ plain base.authority, isSlash c = false := fun c member =>
      base.noSlash c (mem_of_mem_plain member)
    rw [readPlace?_path web base.named noSlash (by simp [nonempty]) made, List.flatMap_append,
      OrderedPath.addAll_append]
    · rfl
    · exact flatMap_fields_ne_nil (by simp [nonempty])

end BaseAddress

end DashboardTools.Url
