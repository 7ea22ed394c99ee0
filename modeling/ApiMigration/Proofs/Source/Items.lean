import ApiMigration.Proofs.Text.Reader
import ApiMigration.Proofs.Text.Trim
import ApiMigration.Source.Signature

namespace ApiMigration

namespace Text

theorem trim_eq_self {text : List Char} (first : Stops isBlank text)
    (last : Stops isBlank text.reverse) : trim text = text := by
  have begun := trimStart_eq_self first
  have ended := trimStart_eq_self last
  rw [trimStart] at ended
  rw [trim, begun, trimEnd, ended, List.reverse_reverse]

theorem stops_of_solid {text : List Char} (solid : ∀ c ∈ text, isBlank c = false) :
    Stops isBlank text ∧ Stops isBlank text.reverse := by
  constructor
  · intro c first
    exact solid c (List.mem_of_head? first)
  · intro c last
    exact solid c (List.mem_reverse.mp (List.mem_of_head? last))

theorem exists_intercalate_cons (separator first : List Char) (more : List (List Char)) :
    ∃ tail, List.intercalate separator (first :: more) = first ++ tail := by
  cases more with
  | nil => exact ⟨[], by simp⟩
  | cons next more => exact ⟨_, by rw [List.intercalate_cons_cons, List.append_assoc]⟩

def IsWord (word : List Char) : Prop :=
  word ≠ [] ∧ ∀ c ∈ word, isBlank c = false

instance (word : List Char) : Decidable (IsWord word) :=
  inferInstanceAs (Decidable (word ≠ [] ∧ ∀ c ∈ word, isBlank c = false))

theorem words_append_blank {c : Char} (blank : isBlank c = true) (left right : List Char) :
    words (left ++ c :: right) = words left ++ words right := by
  unfold words
  rw [List.splitOnP_append_cons left right blank, List.filter_append]

theorem words_of_isWord {word : List Char} (isWord : IsWord word) : words word = [word] := by
  have whole : word.splitOnP isBlank = [word] := by
    apply List.splitOnP_eq_singleton
    intro c member
    simp [isWord.2 c member]
  simp [words, whole, isWord.1]

theorem words_spaced {parts : List (List Char)} (each : ∀ word ∈ parts, IsWord word) :
    words (List.intercalate [' '] parts) = parts := by
  induction parts with
  | nil => decide
  | cons word more ih =>
    have first := words_of_isWord (each word List.mem_cons_self)
    have rest := ih fun other member => each other (List.mem_cons_of_mem _ member)
    cases more with
    | nil => simpa using first
    | cons next more =>
      rw [List.intercalate_cons_cons, List.append_assoc, List.singleton_append,
        words_append_blank (by decide), first, rest]
      rfl

theorem words_blank {text : List Char} (blank : AllBlank text) : words text = [] := by
  induction text with
  | nil => decide
  | cons c text ih =>
    have rest : AllBlank text := fun d member => blank d (List.mem_cons_of_mem c member)
    have split := words_append_blank (blank c List.mem_cons_self) [] text
    rw [List.nil_append, ih rest, List.append_nil] at split
    rw [split]
    decide

theorem words_append_allBlank {right : List Char} (blank : AllBlank right) (text : List Char) :
    words (text ++ right) = words text := by
  cases right with
  | nil => rw [List.append_nil]
  | cons c right =>
    have rest : AllBlank right := fun d member => blank d (List.mem_cons_of_mem c member)
    rw [words_append_blank (blank c List.mem_cons_self), words_blank rest, List.append_nil]

theorem words_allBlank_append {left : List Char} (blank : AllBlank left) (text : List Char) :
    words (left ++ text) = words text := by
  induction left with
  | nil => rfl
  | cons c left ih =>
    have rest : AllBlank left := fun d member => blank d (List.mem_cons_of_mem c member)
    have split := words_append_blank (blank c List.mem_cons_self) [] (left ++ text)
    rw [words_blank allBlank_nil, List.nil_append, List.nil_append] at split
    rw [List.cons_append, split, ih rest]

theorem words_trim (text : List Char) : words (trim text) = words text := by
  obtain ⟨left, right, before, after, whole⟩ := exists_trim_split text
  calc
    words (trim text) = words (left ++ trim text) := (words_allBlank_append before _).symm
    _ = words (left ++ trim text ++ right) := (words_append_allBlank after _).symm
    _ = words text := congrArg words whole.symm

end Text

namespace Source

open Text

/-- A text that closes the `depth` angle brackets it stands in and all of its own, with every comma
inside some bracket. -/
inductive Closes : (depth : Nat) → List Char → Prop
  | done : Closes 0 []
  | opening {depth : Nat} {text : List Char} (rest : Closes (depth + 1) text) :
      Closes depth ('<' :: text)
  | closing {depth : Nat} {text : List Char} (rest : Closes depth text) :
      Closes (depth + 1) ('>' :: text)
  | other {depth : Nat} {c : Char} {text : List Char} (notOpening : c ≠ '<') (notClosing : c ≠ '>')
      (nested : c = ',' → depth ≠ 0) (rest : Closes depth text) : Closes depth (c :: text)

def closes : (depth : Nat) → List Char → Bool
  | depth, [] => depth == 0
  | depth, c :: text =>
    if c = '<' then closes (depth + 1) text
    else if c = '>' then depth != 0 && closes (depth - 1) text
    else (c != ',' || depth != 0) && closes depth text

theorem closes_iff {depth : Nat} {text : List Char} :
    closes depth text = true ↔ Closes depth text := by
  constructor
  · intro checked
    induction text generalizing depth with
    | nil =>
      have zero : depth = 0 := by simpa [closes] using checked
      rw [zero]
      exact .done
    | cons c text ih =>
      rw [closes] at checked
      by_cases opening : c = '<'
      · rw [if_pos opening] at checked
        rw [opening]
        exact .opening (ih checked)
      · rw [if_neg opening] at checked
        by_cases closing : c = '>'
        · rw [if_pos closing, Bool.and_eq_true, bne_iff_ne] at checked
          obtain ⟨outer, rfl⟩ := Nat.exists_eq_succ_of_ne_zero checked.1
          rw [closing]
          exact .closing (ih checked.2)
        · rw [if_neg closing, Bool.and_eq_true] at checked
          apply Closes.other opening closing _ (ih checked.2)
          intro comma
          simpa [comma] using checked.1
  · intro closed
    induction closed with
    | done => rfl
    | opening _ ih => simpa [closes] using ih
    | closing _ ih => simpa [closes] using ih
    | other notOpening notClosing nested _ ih =>
      rw [closes, if_neg notOpening, if_neg notClosing, ih, Bool.and_true, Bool.or_eq_true,
        bne_iff_ne, bne_iff_ne]
      exact not_or_of_imp nested

instance (depth : Nat) (text : List Char) : Decidable (Closes depth text) :=
  decidable_of_iff _ closes_iff

theorem Closes.append {inner outer : Nat} {left right : List Char} (first : Closes inner left)
    (second : Closes outer right) : Closes (outer + inner) (left ++ right) := by
  induction first with
  | done => exact second
  | opening _ ih => exact .opening ih
  | closing _ ih => exact .closing ih
  | other notOpening notClosing nested _ ih =>
    apply Closes.other notOpening notClosing _ ih
    intro comma
    have deep := nested comma
    omega

theorem Closes.of_plain {text : List Char} (plain : ∀ c ∈ text, c ≠ '<' ∧ c ≠ '>' ∧ c ≠ ',') :
    Closes 0 text := by
  induction text with
  | nil => exact .done
  | cons c text ih =>
    obtain ⟨notOpening, notClosing, notComma⟩ := plain c List.mem_cons_self
    have rest := ih fun d member => plain d (List.mem_cons_of_mem c member)
    exact .other notOpening notClosing (fun comma => absurd comma notComma) rest

theorem cutAtCommas_cons {depth : Nat} {c : Char} (inside : c = ',' → depth ≠ 0)
    (text : List Char) :
    cutAtCommas depth (c :: text) = consToFirst c (cutAtCommas (depthAfter depth c) text) := by
  rw [cutAtCommas, if_neg]
  intro ⟨comma, zero⟩
  exact inside comma zero

theorem cutAtCommas_closed {depth : Nat} {left right part : List Char} {parts : List (List Char)}
    (closed : Closes depth left) (cut : cutAtCommas 0 right = part :: parts) :
    cutAtCommas depth (left ++ right) = (left ++ part) :: parts := by
  induction closed with
  | done => exact cut
  | opening _ ih =>
    rw [List.cons_append, cutAtCommas_cons (by simp)]
    exact congrArg (consToFirst '<') ih
  | closing _ ih =>
    rw [List.cons_append, cutAtCommas_cons (by simp)]
    exact congrArg (consToFirst '>') ih
  | @other depth c text notOpening notClosing nested _ ih =>
    have after : depthAfter depth c = depth := by simp [depthAfter, notOpening, notClosing]
    rw [List.cons_append, cutAtCommas_cons nested, after]
    exact congrArg (consToFirst c) ih

theorem cutAtCommas_ne_nil (depth : Nat) (text : List Char) : cutAtCommas depth text ≠ [] := by
  cases text with
  | nil => simp [cutAtCommas]
  | cons c text =>
    rw [cutAtCommas]
    split
    · simp
    · cases cutAtCommas (depthAfter depth c) text with
      | nil => simp [consToFirst]
      | cons part parts => simp [consToFirst]

/-- A text that can stand between two commas of a list. -/
structure IsItem (text : List Char) : Prop where
  closed : Closes 0 text
  solid : trim text ≠ []

namespace IsItem

variable {item : List Char}

theorem splitTopLevel_comma (isItem : IsItem item) (rest : List Char) :
    splitTopLevel (item ++ ',' :: rest) = trim item :: splitTopLevel rest := by
  have cut : cutAtCommas 0 (',' :: rest) = [] :: cutAtCommas 0 rest := by simp [cutAtCommas]
  rw [splitTopLevel, cutAtCommas_closed isItem.closed cut, List.append_nil, List.map_cons,
    List.filter_cons_of_pos (by simp [isItem.solid])]
  rfl

theorem splitTopLevel_last (isItem : IsItem item) : splitTopLevel item = [trim item] := by
  have cut : cutAtCommas 0 item = [item] := by
    have whole := cutAtCommas_closed isItem.closed (rfl : cutAtCommas 0 [] = [[]])
    rwa [List.append_nil] at whole
  rw [splitTopLevel, cut, List.map_singleton, List.filter_cons_of_pos (by simp [isItem.solid]),
    List.filter_nil]

end IsItem

theorem splitTopLevel_space (text : List Char) :
    splitTopLevel (' ' :: text) = splitTopLevel text := by
  have first (part : List Char) : trim (' ' :: part) = trim part :=
    trim_blank_append allBlank_space part
  have cut : cutAtCommas 0 (' ' :: text) = consToFirst ' ' (cutAtCommas 0 text) := by
    simp [cutAtCommas, depthAfter]
  obtain ⟨part, parts, split⟩ := List.exists_cons_of_ne_nil (cutAtCommas_ne_nil 0 text)
  rw [splitTopLevel, splitTopLevel, cut, split, consToFirst, List.map_cons, List.map_cons, first]

theorem splitTopLevel_joined {items : List (List Char)} (each : ∀ item ∈ items, IsItem item) :
    splitTopLevel (List.intercalate [',', ' '] items) = items.map trim := by
  induction items with
  | nil => decide
  | cons item more ih =>
    have isItem := each item List.mem_cons_self
    cases more with
    | nil => simpa using isItem.splitTopLevel_last
    | cons next more =>
      have rest := ih fun other member => each other (List.mem_cons_of_mem _ member)
      rw [List.intercalate_cons_cons, List.append_assoc, List.cons_append, List.singleton_append,
        isItem.splitTopLevel_comma, splitTopLevel_space, rest]
      rfl

end Source

end ApiMigration
