/-
# Manuscript.Proofs.Bibtex.Recovery -- an unclosed value does not hide later entries

While a value is being typed its brace is not closed, and its reader looks ahead over all that
follows.  It finds no end if the braces there close no group that they have not opened
(`inBraces?_eq_none_iff`).  Then nothing of the value is kept: the entry ends in front of the
brace, and the scan goes on there (`scan_unfinished`).

So the blocks behind the value are read as if they stood alone (`analyze_unfinished`).  Only the
check for keys sees the unfinished entry: one more key can be a duplicate, the first that is
spelled like the key in front of it.
-/
import Manuscript.Proofs.Bibtex.Shift
import Manuscript.Proofs.Latex.Balance

namespace Manuscript.Bibtex

set_option autoImplicit false

open Text Markup

open Latex (depth? Unclosing unclosing_iff)

/-! ## Values that nothing closes -/

/-- A text in braces has no end where no brace closes more groups than are open. -/
theorem inBraces?_eq_none_iff (depth : Nat) (escaped : Bool) (cs : List Char) :
    inBraces? depth escaped cs = none ↔ (depth? depth (Latex.braces escaped cs)).isSome := by
  induction cs generalizing depth escaped with
  | nil => simp [inBraces?, Latex.braces]
  | cons c cs ih =>
      unfold inBraces? Latex.braces
      cases escaped with
      | true => simp [ih]
      | false =>
          by_cases hslash : c = '\\'
          · simp [hslash, ih]
          by_cases hopen : c = '{'
          · subst hopen
            simp [ih]
          by_cases hclose : c = '}'
          · subst hclose
            cases depth with
            | zero => simp [depth?]
            | succ depth => simp [ih]
          · simp [hslash, hopen, hclose, ih]

/-- An entry up to the value of its first field. -/
structure Unfinished where
  kind : Word
  ordinary : String.ofList (lower kind.text) ∉ ["comment", "preamble", "string"]
  blanks : Blanks
  delimiter : Delimiter
  inside : Blanks
  key : Key delimiter
  before : Blanks
  after : Blanks
  field : Word
  left : Blanks
  right : Blanks

namespace Unfinished

variable (u : Unfinished)

/-- The text of the field up to its value. -/
def sign : List Char := u.field.text ++ (u.left.text ++ '=' :: u.right.text)

def text : List Char :=
  head u.kind u.blanks u.delimiter ++
    (u.inside.text ++ (u.key.text ++ (comma u.before u.after ++ u.sign)))

/-- What is known of the entry when its value is given up. -/
def entry (offset : Nat) : Entry where
  kind := String.ofList (lower u.kind.text)
  key := some (.ofText (offset + utf8Length (head u.kind u.blanks u.delimiter ++ u.inside.text))
    u.key.text)
  title := none
  span := ⟨offset, offset + utf8Length u.text⟩

end Unfinished

/-- A value that is not closed has no text and no references. -/
theorem Value.read_unclosed {delimiter : Delimiter} {body : List Char}
    (h : inBraces? 0 false body = none) (o : Nat) :
    Value.read delimiter ⟨o, '{' :: body⟩ = ⟨none, [], ⟨o, '{' :: body⟩⟩ := by
  have hhere : skipBlanks ⟨o, '{' :: body⟩ = ⟨o, '{' :: body⟩ :=
    skipBlanks_here (show isAsciiBlank '{' = false by decide)
  have hpiece : Piece.read delimiter ⟨o, '{' :: body⟩ = .unclosed := by simp [Piece.read, h]
  rw [read_of_none (by rw [hhere, hpiece]; rfl), hhere, hpiece, if_pos rfl]

/-- The field whose value is not closed ends the fields. -/
theorem Unfinished.read_sign (u : Unfinished) {body : List Char}
    (h : inBraces? 0 false body = none) (o : Nat) :
    Fields.read u.delimiter ⟨o, u.sign ++ '{' :: body⟩ =
      ⟨[], [], false, ⟨o + utf8Length u.sign, '{' :: body⟩⟩ := by
  have htext : u.sign ++ '{' :: body =
      u.field.text ++ (u.left.text ++ '=' :: (u.right.text ++ '{' :: body)) := by
    simp [Unfinished.sign]
  have hhere : skipBlanks ⟨o, u.sign ++ '{' :: body⟩ = ⟨o, u.sign ++ '{' :: body⟩ := by
    rw [htext]
    exact skipBlanks_here (startsWith_part (.word u.field) _)
  have hstep : Fields.Step.read u.delimiter (skipBlanks ⟨o, u.sign ++ '{' :: body⟩) =
      .abandon [] ⟨o + utf8Length u.sign, '{' :: body⟩ := by
    rw [hhere, htext, step_sign]
    unfold Fields.Step.value
    rw [Value.read_unclosed h]
    rfl
  exact Fields.read_of_abandon hstep

/-- The block is the entry and its fault. -/
theorem Unfinished.content_eq (u : Unfinished) {body : List Char}
    (h : inBraces? 0 false body = none) (o : Nat) :
    Block.content o (String.ofList (lower u.kind.text)) u.delimiter
        ⟨o + utf8Length (head u.kind u.blanks u.delimiter), u.inside.text ++ (u.key.text ++
          (comma u.before u.after ++ (u.sign ++ '{' :: body)))⟩ =
      ⟨[.fault (unterminated o), .entry (u.entry o)], ⟨o + utf8Length u.text, '{' :: body⟩⟩ := by
  generalize hs : o + utf8Length (head u.kind u.blanks u.delimiter ++ u.inside.text) = start
  have hstart : o + utf8Length (head u.kind u.blanks u.delimiter) + utf8Length u.inside.text =
      start := by rw [← hs, utf8Length_append, Nat.add_assoc]
  have hstop : start + utf8Length u.key.text + utf8Length (comma u.before u.after) +
      utf8Length u.sign = o + utf8Length u.text := by
    rw [← hstart, Unfinished.text]
    simp only [utf8Length_append]
    omega
  have hkey : skipBlanks ⟨start, u.key.text ++ (comma u.before u.after ++
      (u.sign ++ '{' :: body))⟩ = ⟨start, u.key.text ++ (comma u.before u.after ++
        (u.sign ++ '{' :: body))⟩ := skipBlanks_here (startsWith_key u.key _)
  have hends : Block.endsKey u.delimiter (comma u.before u.after ++ (u.sign ++ '{' :: body)) =
      true := by
    rw [comma, List.append_assoc]
    exact endsKey_blanks u.before (by simp [Block.endsKey, startsWith])
  have hordinary := u.ordinary
  simp only [List.mem_cons, List.not_mem_nil, or_false, not_or] at hordinary
  obtain ⟨hcomment, hpreamble, hstring⟩ := hordinary
  simp only [Block.content, hcomment, hpreamble, hstring, or_self, if_false, Block.entry]
  rw [skipBlanks_append u.inside.blank, hstart, hkey, key_read u.key (Or.inr hends)]
  simp only [u.key.nonempty, if_false, fields_comma, u.read_sign h, hstop, Fields.faults,
    Unfinished.entry, hs]
  rfl

/-- **The scan goes on in front of the brace**, which begins nothing. -/
theorem scan_unfinished (u : Unfinished) {value rest : List Char}
    (hvalue : ∀ c ∈ value, c ∉ ['@', '{', '}', '\\']) (hrest : Unclosing (Latex.braces false rest))
    (o : Nat) :
    scan ⟨o, u.text ++ '{' :: (value ++ rest)⟩ =
      .fault (unterminated o) :: .entry (u.entry o) ::
        scan ⟨o + utf8Length (u.text ++ '{' :: value), rest⟩ := by
  simp only [List.mem_cons, List.not_mem_nil, or_false, not_or] at hvalue
  have hclosing : inBraces? 0 false (value ++ rest) = none := by
    rw [inBraces?_eq_none_iff, Latex.braces_quiet fun c hc => by simp [hvalue c hc]]
    exact unclosing_iff.1 hrest
  have houtside : '@' ∉ '{' :: value := by
    rw [List.mem_cons, not_or]
    exact ⟨by decide, fun hmem => (hvalue _ hmem).1 rfl⟩
  have htext : u.text ++ '{' :: (value ++ rest) = head u.kind u.blanks u.delimiter ++
      (u.inside.text ++ (u.key.text ++ (comma u.before u.after ++
        (u.sign ++ '{' :: (value ++ rest))))) := by simp [Unfinished.text]
  have hnext : o + utf8Length u.text + utf8Length ('{' :: value) =
      o + utf8Length (u.text ++ '{' :: value) := by rw [utf8Length_append, Nat.add_assoc]
  rw [htext, scan_block, u.content_eq hclosing]
  show _ :: _ :: scan ⟨_, ('{' :: value) ++ rest⟩ = _
  rw [scan_free houtside, hnext]

/-! ## What is found -/

theorem repeated_congr {seen seen' : List String} (h : ∀ name, name ∈ seen ↔ name ∈ seen')
    (symbols : List Symbol) : repeated seen symbols = repeated seen' symbols := by
  simp only [repeated_eq, h]

/-- One name more that was seen makes the first symbol of this name a repeated one. -/
theorem perm_repeated {name : String} {seen : List String} (h : name ∉ seen)
    (symbols : List Symbol) :
    (repeated (name :: seen) symbols).Perm
      (repeated seen symbols ++ (symbols.find? (·.name = name)).toList) := by
  induction symbols generalizing seen with
  | nil => exact .refl _
  | cons s symbols ih =>
      by_cases hname : s.name = name
      · subst hname
        simp only [repeated, h, List.mem_cons_self, if_true, if_false, List.find?_cons,
          decide_true, Option.toList_some]
        exact (List.perm_append_singleton s _).symm
      · have hfind : (s :: symbols).find? (·.name = name) = symbols.find? (·.name = name) :=
          List.find?_cons_of_neg (by simpa using hname)
        rw [hfind, repeated, repeated]
        by_cases hseen : s.name ∈ seen
        · rw [if_pos (List.mem_cons_of_mem _ hseen), if_pos hseen]
          exact (ih h).cons s
        · rw [if_neg (by simp [hname, hseen]), if_neg hseen]
          have hswap : repeated (s.name :: name :: seen) symbols =
              repeated (name :: s.name :: seen) symbols :=
            repeated_congr (fun other => by simp [or_left_comm]) symbols
          rw [hswap]
          exact ih (by simp [h, Ne.symm hname])

/-- An entry with a fault of its own in front of a bibliography. -/
def behind (e : Entry) (d : Diagnostic) (s : Structure) : Structure :=
  { s with
    entries := e :: s.entries
    diagnostics := d :: s.diagnostics }

/-- The problems but those of keys. -/
theorem filter_checked (s : Structure) :
    (checked s).diagnostics.filter (·.code ≠ some "BIB005") = Diagnostic.sorted
      ((s.diagnostics ++ (s.stringReferences.filter fun reference =>
        !s.definesString reference.name).map undefinedString).filter (·.code ≠ some "BIB005")) := by
  have hduplicates (symbols : List Symbol) :
      (symbols.map duplicateKey).filter (·.code ≠ some "BIB005") = [] := by
    rw [List.filter_eq_nil_iff]
    intro d hd
    obtain ⟨s, -, rfl⟩ := List.mem_map.1 hd
    simp [duplicateKey]
  rw [checked, Diagnostic.filter_sorted, List.filter_append, List.filter_append, hduplicates,
    List.append_nil, List.filter_append]

theorem mem_checked {s : Structure} {d : Diagnostic}
    (h : d ∈ s.diagnostics ++ (s.stringReferences.filter fun reference =>
        !s.definesString reference.name).map undefinedString) : d ∈ (checked s).diagnostics := by
  refine List.mem_mergeSort.2 ?_
  rw [List.mem_append] at h
  simp only [List.mem_append]
  tauto

theorem filter_checked_behind {e : Entry} {d : Diagnostic} (hd : d.code ≠ some "BIB005")
    {s : Structure} (hfirst : ∀ other ∈ (checked s).diagnostics, d.atOrBefore other = true) :
    (checked (behind e d s)).diagnostics.filter (·.code ≠ some "BIB005") =
      d :: (checked s).diagnostics.filter (·.code ≠ some "BIB005") := by
  rw [filter_checked, filter_checked]
  show Diagnostic.sorted ((d :: _).filter _) = _
  rw [List.filter_cons_of_pos (by simpa using hd)]
  exact Diagnostic.sorted_cons fun other hother =>
    hfirst other (mem_checked (List.mem_filter.1 hother).1)

theorem perm_checked_behind {e : Entry} {key : Symbol} (hkey : e.key = some key) (d : Diagnostic)
    (s : Structure) :
    (checked (behind e d s)).diagnostics.Perm (d :: ((checked s).diagnostics ++
      ((s.keys.find? (·.name = key.name)).map duplicateKey).toList)) := by
  have hkeys : (behind e d s).keys = key :: s.keys := List.filterMap_cons_some hkey
  have hduplicates : ((repeated [] (key :: s.keys)).map duplicateKey).Perm
      ((repeated [] s.keys).map duplicateKey ++
        ((s.keys.find? (·.name = key.name)).map duplicateKey).toList) := by
    have hperm := (@perm_repeated key.name [] List.not_mem_nil s.keys).map duplicateKey
    rw [List.map_append] at hperm
    rw [repeated, if_neg List.not_mem_nil]
    cases hfind : s.keys.find? (·.name = key.name) <;> simpa [hfind] using hperm
  have hsorted (ds : List Diagnostic) : (Diagnostic.sorted ds).Perm ds := List.mergeSort_perm _ _
  generalize hextra : ((s.keys.find? (·.name = key.name)).map duplicateKey).toList = extra
    at hduplicates ⊢
  refine (hsorted _).trans ?_
  rw [hkeys]
  show (d :: (s.diagnostics ++ _ ++ _)).Perm _
  refine List.Perm.cons d ?_
  refine ((hduplicates.append_left _).append_right _).trans ?_
  refine List.Perm.trans ?_ ((hsorted _).append_right extra).symm
  simp only [List.append_assoc]
  exact ((List.perm_append_comm).append_left _).append_left _

/-- **An unclosed value does not hide later entries.** -/
theorem analyze_unfinished (u : Unfinished) {value rest : List Char}
    (hvalue : ∀ c ∈ value, c ∉ ['@', '{', '}', '\\'])
    (hrest : Unclosing (Latex.braces false rest)) :
    let found := (analyze (String.ofList rest)).shift (utf8Length (u.text ++ '{' :: value))
    let whole := analyze (String.ofList (u.text ++ '{' :: (value ++ rest)))
    whole.entries = u.entry 0 :: found.entries ∧ whole.strings = found.strings ∧
      whole.stringReferences = found.stringReferences ∧
      whole.diagnostics.filter (·.code ≠ some "BIB005") =
        unterminated 0 :: found.diagnostics.filter (·.code ≠ some "BIB005") ∧
      whole.diagnostics.Perm (unterminated 0 :: (found.diagnostics ++
        ((found.keys.find? (·.name = String.ofList u.key.text)).map duplicateKey).toList)) := by
  generalize hn : utf8Length (u.text ++ '{' :: value) = n
  generalize hs : (gathered (scan ⟨0, rest⟩)).shift n = s
  have hpos : 0 < n := by
    rw [← hn, utf8Length_append, utf8Length_cons]
    have hbrace := Char.utf8Size_pos '{'
    omega
  have hfound : (analyze (String.ofList rest)).shift n = checked s := by
    rw [← hs, ← Structure.shift_gathered, ← ofEvents_eq, Structure.shift_ofEvents]
    simp [analyze, Cursor.ofString]
  have hwhole : analyze (String.ofList (u.text ++ '{' :: (value ++ rest))) =
      checked (behind (u.entry 0) (unterminated 0) s) := by
    have hshift : scan ⟨n, rest⟩ = (scan ⟨0, rest⟩).map (Event.shift n) := shift_scan n ⟨0, rest⟩
    rw [analyze, Cursor.ofString, String.toList_ofList, scan_unfinished u hvalue hrest, hn,
      Nat.zero_add, hshift, ofEvents_eq, ← hs, ← Structure.shift_gathered]
    rfl
  have hfirst : ∀ d ∈ (checked s).diagnostics, (unterminated 0).atOrBefore d = true := by
    rw [← hfound]
    intro d hd
    obtain ⟨d, -, rfl⟩ := List.mem_map.1 hd
    have hlt : 0 < n + d.span.start := Nat.add_pos_left hpos _
    exact Bool.or_eq_true_iff.2 (Or.inl (decide_eq_true hlt))
  dsimp only
  rw [hfound, hwhole]
  exact ⟨rfl, rfl, rfl, filter_checked_behind (by decide) hfirst,
    @perm_checked_behind (u.entry 0) (.ofText _ u.key.text) rfl _ s⟩

namespace Example

def space : Blanks := ⟨[' '], List.all_eq_true.1 (by decide)⟩

def nothing : Blanks := ⟨[], List.forall_mem_nil _⟩

/-- An article whose title is being typed. -/
def article : Unfinished where
  kind := ⟨"article".toList, by decide, List.all_eq_true.1 (by decide)⟩
  ordinary := by decide
  blanks := nothing
  delimiter := .brace
  inside := nothing
  key := ⟨['a'], by decide, List.all_eq_true.1 (by decide)⟩
  before := nothing
  after := space
  field := ⟨"title".toList, by decide, List.all_eq_true.1 (by decide)⟩
  left := space
  right := space

def book : List Char := "@book\x7ba, title = \x7bWhole\x7d\x7d".toList

end Example

/-- The book behind the article is found, and has its key. -/
theorem analyze_unfinished_article :
    ((∀ c ∈ "Half\n".toList, c ∉ ['@', '{', '}', '\\']) ∧
      Unclosing (Latex.braces false Example.book)) ∧
    Example.article.text ++ '{' :: ("Half\n".toList ++ Example.book) =
      "@article\x7ba, title = \x7bHalf\n@book\x7ba, title = \x7bWhole\x7d\x7d".toList ∧
    (analyze (String.ofList (Example.article.text ++
        '{' :: ("Half\n".toList ++ Example.book)))).entries =
      [⟨"article", some ⟨"a", ⟨9, 10⟩⟩, none, ⟨0, 20⟩⟩,
        ⟨"book", some ⟨"a", ⟨32, 33⟩⟩, some "Whole", ⟨26, 51⟩⟩] ∧
    (analyze (String.ofList (Example.article.text ++
        '{' :: ("Half\n".toList ++ Example.book)))).diagnostics.Perm
      [unterminated 0, duplicateKey ⟨"a", ⟨32, 33⟩⟩] := by
  have hvalue : ∀ c ∈ "Half\n".toList, c ∉ ['@', '{', '}', '\\'] := by simp
  have hbook : Unclosing (Latex.braces false Example.book) := by decide
  obtain ⟨hentries, -, -, -, hdiagnostics⟩ := analyze_unfinished Example.article hvalue hbook
  rw [hentries]
  exact ⟨⟨hvalue, hbook⟩, by decide +kernel, by decide +kernel,
    hdiagnostics.trans (.of_eq (by decide +kernel))⟩

end Manuscript.Bibtex
