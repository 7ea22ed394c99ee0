import ApiMigration.Proofs.Source.Items
import Mathlib.Data.List.Infix
import Mathlib.Tactic.MkIffOfInductiveProp

/-!
Cutting at commas against joining with commas. What is joined from parts whose brackets pair up is
cut into these parts again, and any text at all is what its pieces join to, cut where a comma stands
outside all brackets.
-/

namespace ApiMigration.Source

open Text

/-- How many angle brackets a text leaves open; negative when it closes more than it opens. -/
def nesting (text : List Char) : Int :=
  text.count '<' - text.count '>'

/-- A trimmed text whose angle brackets pair up, with each comma inside some of them. -/
@[mk_iff]
structure IsPart (part : List Char) : Prop where
  solid : part ≠ []
  trimmed : trim part = part
  neverNegative : ∀ front ∈ part.inits, 0 ≤ nesting front
  paired : nesting part = 0
  commas : ∀ front ∈ part.inits, front ++ [','] <+: part → 1 ≤ nesting front

instance (part : List Char) : Decidable (IsPart part) :=
  decidable_of_iff _ (isPart_iff part).symm

/-- Some parts as pieces between commas: each part with white space around it, and any blank pieces
in between. -/
inductive Listing : (parts pieces : List (List Char)) → Prop
  | done : Listing [] []
  | blank {piece : List Char} {parts pieces : List (List Char)} (blank : AllBlank piece)
      (more : Listing parts pieces) : Listing parts (piece :: pieces)
  | part {left right : List Char} (part : List Char) {parts pieces : List (List Char)}
      (before : AllBlank left) (after : AllBlank right) (more : Listing parts pieces) :
      Listing (part :: parts) ((left ++ part ++ right) :: pieces)

def depthBehind (text : List Char) : Nat :=
  text.foldl depthAfter 0

section Nesting

theorem nesting_cons (c : Char) (text : List Char) :
    nesting (c :: text) = nesting [c] + nesting text := by
  simp only [nesting, List.count_cons, List.count_nil]
  omega

theorem nesting_singleton {c : Char} (notOpening : c ≠ '<') (notClosing : c ≠ '>') :
    nesting [c] = 0 := by
  simp [nesting, notOpening, notClosing]

theorem closes_of_nesting {depth : Nat} {text : List Char}
    (neverNegative : ∀ front, front <+: text → 0 ≤ depth + nesting front)
    (paired : depth + nesting text = 0)
    (commas : ∀ front, front ++ [','] <+: text → 1 ≤ depth + nesting front) :
    Closes depth text := by
  induction text generalizing depth with
  | nil =>
    have zero : depth = 0 := by simpa [nesting] using paired
    rw [zero]
    exact .done
  | cons c text ih =>
    -- The first character moves the depth of every longer front by the same amount.
    have rest {next : Nat} (after : (next : Int) = depth + nesting [c]) : Closes next text := by
      apply ih
      · intro front begins
        have bound := neverNegative (c :: front) (List.cons_prefix_cons.mpr ⟨rfl, begins⟩)
        rw [nesting_cons] at bound
        omega
      · rw [nesting_cons] at paired
        omega
      · intro front begins
        have bound := commas (c :: front) (List.cons_prefix_cons.mpr ⟨rfl, begins⟩)
        rw [nesting_cons] at bound
        omega
    by_cases opening : c = '<'
    · subst opening
      exact .opening (rest rfl)
    · by_cases closing : c = '>'
      · subst closing
        have inside : 0 ≤ (depth : Int) + nesting ['>'] :=
          neverNegative ['>'] (List.cons_prefix_cons.mpr ⟨rfl, List.nil_prefix⟩)
        have outer : nesting ['>'] = -1 := rfl
        obtain ⟨before, rfl⟩ : ∃ before, depth = before + 1 := ⟨depth - 1, by omega⟩
        exact .closing (rest (by omega))
      · have level := nesting_singleton opening closing
        apply Closes.other opening closing _ (rest (by omega))
        rintro rfl
        have inside : 1 ≤ (depth : Int) + nesting [] :=
          commas [] (List.cons_prefix_cons.mpr ⟨rfl, List.nil_prefix⟩)
        have empty : nesting [] = 0 := rfl
        omega

theorem IsPart.closes {part : List Char} (isPart : IsPart part) : Closes 0 part := by
  apply closes_of_nesting
  · intro front begins
    have bound := isPart.neverNegative front ((List.mem_inits _ _).mpr begins)
    omega
  · have paired := isPart.paired
    omega
  · intro front begins
    have shorter := (List.prefix_append front [',']).trans begins
    have bound := isPart.commas front ((List.mem_inits _ _).mpr shorter) begins
    omega

theorem closes_allBlank {text : List Char} (blank : AllBlank text) : Closes 0 text := by
  apply Closes.of_plain
  intro c member
  have held := blank c member
  refine ⟨?_, ?_, ?_⟩ <;>
  · rintro rfl
    revert held
    decide

end Nesting

namespace Listing

variable {parts pieces : List (List Char)}

theorem closes_piece (listing : Listing parts pieces) (each : ∀ part ∈ parts, IsPart part) :
    ∀ piece ∈ pieces, Closes 0 piece := by
  induction listing with
  | done => exact List.forall_mem_nil _
  | blank blank _ ih =>
    rw [List.forall_mem_cons]
    exact ⟨closes_allBlank blank, ih each⟩
  | part part before after _ ih =>
    rw [List.forall_mem_cons] at each ⊢
    have whole := ((closes_allBlank before).append each.1.closes).append (closes_allBlank after)
    exact ⟨whole, ih each.2⟩

theorem trimmed_eq (listing : Listing parts pieces) (each : ∀ part ∈ parts, IsPart part) :
    ((pieces.map trim).filter fun part => !part.isEmpty) = parts := by
  induction listing with
  | done => rfl
  | blank blank _ ih =>
    rw [List.map_cons, trim_eq_nil blank, List.filter_cons_of_neg (by simp), ih each]
  | part part before after _ ih =>
    rw [List.forall_mem_cons] at each
    have bare := (trim_append_blank after _).trans (trim_blank_append before part)
    rw [List.map_cons, bare, each.1.trimmed,
      List.filter_cons_of_pos (by simp [each.1.solid]), ih each.2]

theorem of_trimmed (pieces : List (List Char)) :
    Listing ((pieces.map trim).filter fun part => !part.isEmpty) pieces := by
  induction pieces with
  | nil => exact .done
  | cons piece pieces ih =>
    obtain ⟨left, right, before, after, split⟩ := exists_trim_split piece
    rw [List.map_cons]
    by_cases void : trim piece = []
    · rw [List.filter_cons_of_neg (by simp [void])]
      rw [void, List.append_nil] at split
      exact .blank (split ▸ before.append after) ih
    · rw [List.filter_cons_of_pos (by simp [void])]
      have listing := Listing.part (trim piece) before after ih
      rwa [← split] at listing

end Listing

section Cut

theorem cutAtCommas_joined {pieces : List (List Char)} (further : pieces ≠ [])
    (each : ∀ piece ∈ pieces, Closes 0 piece) :
    cutAtCommas 0 (List.intercalate [','] pieces) = pieces := by
  induction pieces with
  | nil => exact absurd rfl further
  | cons piece more ih =>
    rw [List.forall_mem_cons] at each
    cases more with
    | nil =>
      rw [List.intercalate_singleton]
      have whole := cutAtCommas_closed each.1 (rfl : cutAtCommas 0 [] = [[]])
      rwa [List.append_nil] at whole
    | cons next more =>
      have cut : cutAtCommas 0 (',' :: List.intercalate [','] (next :: more)) =
          [] :: next :: more := by
        rw [cutAtCommas, if_pos ⟨rfl, rfl⟩, ih (List.cons_ne_nil next more) each.2]
      rw [List.intercalate_cons_cons, List.append_assoc, List.singleton_append,
        cutAtCommas_closed each.1 cut, List.append_nil]

theorem intercalate_nil_cons {parts : List (List Char)} (further : parts ≠ []) :
    List.intercalate [','] ([] :: parts) = ',' :: List.intercalate [','] parts := by
  obtain ⟨part, more, rfl⟩ := List.exists_cons_of_ne_nil further
  rw [List.intercalate_cons_cons]
  rfl

theorem intercalate_cons_head (c : Char) (part : List Char) (more : List (List Char)) :
    List.intercalate [','] ((c :: part) :: more) = c :: List.intercalate [','] (part :: more) := by
  cases more with
  | nil => rw [List.intercalate_singleton, List.intercalate_singleton]
  | cons next more =>
    rw [List.intercalate_cons_cons, List.intercalate_cons_cons]
    rfl

theorem intercalate_cutAtCommas (depth : Nat) (text : List Char) :
    List.intercalate [','] (cutAtCommas depth text) = text := by
  induction text generalizing depth with
  | nil => rfl
  | cons c text ih =>
    rw [cutAtCommas]
    split
    · next outside => rw [intercalate_nil_cons (cutAtCommas_ne_nil 0 text), ih, outside.1]
    · obtain ⟨part, more, cut⟩ :=
        List.exists_cons_of_ne_nil (cutAtCommas_ne_nil (depthAfter depth c) text)
      rw [cut, consToFirst, intercalate_cons_head, ← cut, ih]

theorem cutAtCommas_outside {depth : Nat} {front : List Char}
    (outside : front.foldl depthAfter depth = 0) (back : List Char) :
    cutAtCommas depth (front ++ ',' :: back) = cutAtCommas depth front ++ cutAtCommas 0 back := by
  induction front generalizing depth with
  | nil =>
    rw [List.foldl_nil] at outside
    have separates : cutAtCommas depth (',' :: back) = [] :: cutAtCommas 0 back :=
      if_pos ⟨rfl, outside⟩
    rw [List.nil_append, separates]
    rfl
  | cons c front ih =>
    rw [List.foldl_cons] at outside
    rw [List.cons_append, cutAtCommas, cutAtCommas]
    split
    · next separates =>
      have level : depthAfter depth c = 0 := by
        rw [separates.1, separates.2]
        rfl
      rw [level] at outside
      rw [ih outside, List.cons_append]
    · obtain ⟨part, more, cut⟩ :=
        List.exists_cons_of_ne_nil (cutAtCommas_ne_nil (depthAfter depth c) front)
      rw [ih outside, cut]
      rfl

theorem depth_of_cutAtCommas_eq {depth : Nat} {text : List Char} {before after : List (List Char)}
    (cut : cutAtCommas depth text = before ++ after) (first : before ≠ []) (last : after ≠ []) :
    (List.intercalate [','] before).foldl depthAfter depth = 0 := by
  induction text generalizing depth before with
  | nil =>
    have lengths := congrArg List.length cut
    have some := List.length_pos_iff.mpr first
    have more := List.length_pos_iff.mpr last
    rw [List.length_append, cutAtCommas, List.length_singleton] at lengths
    omega
  | cons c text ih =>
    obtain ⟨part, before, rfl⟩ := List.exists_cons_of_ne_nil first
    rw [cutAtCommas, List.cons_append] at cut
    split at cut
    · next separates =>
      obtain ⟨rfl, rest⟩ := List.cons.inj cut
      by_cases done : before = []
      · rw [done, List.intercalate_singleton]
        exact separates.2
      · rw [intercalate_nil_cons done, List.foldl_cons, separates.2]
        exact ih rest done
    · -- The character begins the first piece, so the rest of the text is cut at the same places.
      obtain ⟨piece, more, found⟩ :=
        List.exists_cons_of_ne_nil (cutAtCommas_ne_nil (depthAfter depth c) text)
      rw [found, consToFirst] at cut
      obtain ⟨rfl, rest⟩ := List.cons.inj cut
      rw [rest] at found
      rw [intercalate_cons_head, List.foldl_cons]
      exact ih found (List.cons_ne_nil piece before)

theorem separates_iff {front back : List Char} :
    depthBehind front = 0 ↔
      ∃ before after, before ≠ [] ∧ after ≠ [] ∧
        cutAtCommas 0 (front ++ ',' :: back) = before ++ after ∧
        List.intercalate [','] before = front ∧ List.intercalate [','] after = back := by
  constructor
  · intro outside
    exact ⟨cutAtCommas 0 front, cutAtCommas 0 back, cutAtCommas_ne_nil 0 front,
      cutAtCommas_ne_nil 0 back, cutAtCommas_outside outside back,
      intercalate_cutAtCommas 0 front, intercalate_cutAtCommas 0 back⟩
  · rintro ⟨before, after, first, last, cut, rfl, _⟩
    exact depth_of_cutAtCommas_eq cut first last

end Cut

/-- Splitting undoes joining with commas, white space around the parts and blank parts between them
included. Any other text is split into trimmed parts too: its pieces list them and join to the text
again, and a comma separates two pieces exactly if it stands outside all brackets, where a bracket
that closes none counts for nothing. -/
theorem splitting_undoes_joining :
    (∀ parts pieces, (∀ part ∈ parts, IsPart part) → Listing parts pieces →
      splitTopLevel (List.intercalate [','] pieces) = parts) ∧
    ∀ text,
      (∀ part ∈ splitTopLevel text, part ≠ [] ∧ trim part = part) ∧
      ∃ pieces, Listing (splitTopLevel text) pieces ∧ List.intercalate [','] pieces = text ∧
        ∀ front back, text = front ++ ',' :: back →
          (depthBehind front = 0 ↔
            ∃ before after, before ≠ [] ∧ after ≠ [] ∧ pieces = before ++ after ∧
              List.intercalate [','] before = front ∧ List.intercalate [','] after = back) := by
  constructor
  · intro parts pieces each listing
    cases pieces with
    | nil =>
      cases listing
      rfl
    | cons piece pieces =>
      rw [splitTopLevel,
        cutAtCommas_joined (List.cons_ne_nil piece pieces) (listing.closes_piece each)]
      exact listing.trimmed_eq each
  · intro text
    constructor
    · intro part listed
      obtain ⟨listed, solid⟩ := List.mem_filter.mp listed
      obtain ⟨piece, _, rfl⟩ := List.mem_map.mp listed
      exact ⟨by simpa using solid, trim_trim piece⟩
    · refine ⟨cutAtCommas 0 text, .of_trimmed _, intercalate_cutAtCommas 0 text, ?_⟩
      rintro front back rfl
      exact separates_iff

/-- Nested commas, blank parts and white space of several kinds do not matter. Behind a bracket too
many the first comma separates, and behind one that stays open the second does not. -/
theorem splitting_undoes_joining_nested :
    let map := "Map<K, List<V>>".toList
    let pieces := [['\t'], [' '] ++ map ++ ['\n'], [], [] ++ "T[]".toList ++ ['\u00a0']]
    (∀ part ∈ [map, "T[]".toList], IsPart part) ∧ Listing [map, "T[]".toList] pieces ∧
      splitTopLevel "\t, Map<K, List<V>>\n,,T[]\u00a0".toList = [map, "T[]".toList] ∧
      "a>, b<c, d".toList = "a>".toList ++ ',' :: " b<c, d".toList ∧
      splitTopLevel "a>, b<c, d".toList = ["a>".toList, "b<c, d".toList] ∧
      ∃ before after, before ≠ [] ∧ after ≠ [] ∧ List.intercalate [','] before = "a>".toList ∧
        List.intercalate [','] after = " b<c, d".toList ∧
        Listing ["a>".toList, "b<c, d".toList] (before ++ after) := by
  intro map pieces
  have each : ∀ part ∈ [map, "T[]".toList], IsPart part := by decide
  have listing : Listing [map, "T[]".toList] pieces :=
    .blank (allBlank_singleton (by decide)) <|
    .part _ allBlank_space allBlank_feed <|
    .blank allBlank_nil <|
    .part _ allBlank_nil (allBlank_singleton (by decide)) .done
  have stray : "a>, b<c, d".toList = "a>".toList ++ ',' :: " b<c, d".toList := by decide
  have parts : splitTopLevel "a>, b<c, d".toList = ["a>".toList, "b<c, d".toList] := by decide
  obtain ⟨undone, split⟩ := splitting_undoes_joining
  obtain ⟨_, broken, listed, _, separates⟩ := split "a>, b<c, d".toList
  obtain ⟨before, after, first, last, rfl, left, right⟩ :=
    (separates _ _ stray).mp (by decide)
  exact ⟨each, listing, undone _ _ each listing, stray, parts, before, after, first, last, left,
    right, parts ▸ listed⟩

end ApiMigration.Source
