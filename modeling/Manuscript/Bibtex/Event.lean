/-
# Manuscript.Bibtex.Event -- a bibliography as a list of events

Text outside of blocks is a comment.  A block starts with an at sign and a type:
comments and preambles are skipped, string blocks declare names, all other blocks
are entries.  `scan` lists what the blocks hold; as in a LaTeX text, what is found
at a place depends on the remaining text alone.

`Fields.read` reads the fields of a block and recovers from what is no field: it
goes on at the next comma or closing delimiter of the same level, and gives up
where the next block starts.
-/
import Manuscript.Bibtex.Value

namespace Manuscript.Bibtex

set_option autoImplicit false

open Text

/-! ## Faults -/

def missingKey (kind : String) (span : Span) : Diagnostic :=
  ⟨.error, "Entry '@" ++ kind ++ "' has no key", some "BIB001", span⟩

def unterminated (start : Nat) : Diagnostic :=
  ⟨.error, "Entry is not terminated", some "BIB002", ⟨start, start + 1⟩⟩

def missingEquals (span : Span) : Diagnostic :=
  ⟨.error, "Expected '=' after field name", some "BIB003", span⟩

def missingDelimiter (kind : String) (span : Span) : Diagnostic :=
  ⟨.error, "Expected '\x7b' after '@" ++ kind ++ "'", some "BIB004", span⟩

def duplicateKey (key : Symbol) : Diagnostic :=
  ⟨.warning, "Duplicate entry key '" ++ key.name ++ "'", some "BIB005", key.span⟩

def undefinedString (reference : Symbol) : Diagnostic :=
  ⟨.warning, "Undefined string '" ++ reference.name ++ "'", some "BIB006", reference.span⟩

inductive Event where
  | entry (entry : Entry)
  | string (name : Symbol)
  | reference (name : Symbol)
  | fault (diagnostic : Diagnostic)
deriving DecidableEq, Repr

/-! ## Fields -/

structure Field where
  name : Symbol
  value : List Char
deriving DecidableEq, Repr

/-- The fields of a block, what else was met among them, whether the closing delimiter was
found, and where reading goes on. -/
structure Fields where
  fields : List Field
  events : List Event
  terminated : Bool
  next : Cursor
deriving DecidableEq, Repr

/-- The text up to a comma, an at sign or the closing delimiter, with `depth` groups open. -/
def untilField (delimiter : Delimiter) : Nat → List Char → List Char × List Char
  | _, [] => ([], [])
  | depth, c :: cs =>
      if depth = 0 ∧ (c = ',' ∨ c = '@' ∨ c = delimiter.closing) then ([], c :: cs)
      else
        let depth :=
          if c = '{' then depth + 1 else if c = '}' then depth - 1 else depth
        let (read, rest) := untilField delimiter depth cs
        (c :: read, rest)

/-- The place where fields can go on, with `depth` groups open. -/
def skipField (delimiter : Delimiter) (depth : Nat) (k : Cursor) : Cursor :=
  let (read, rest) := untilField delimiter depth k.rest
  k.after read rest

/-- Whether fields go on at a place they were skipped to. -/
def fieldsGoOn (k : Cursor) : Bool := startsWith (· != '@') k.rest

theorem untilField_append (delimiter : Delimiter) (depth : Nat) (cs : List Char) :
    (untilField delimiter depth cs).1 ++ (untilField delimiter depth cs).2 = cs := by
  induction cs generalizing depth with
  | nil => rfl
  | cons c cs ih =>
    by_cases h : depth = 0 ∧ (c = ',' ∨ c = '@' ∨ c = delimiter.closing) <;>
      simp [untilField, h, ih]

theorem reaches_skipField (delimiter : Delimiter) (depth : Nat) (k : Cursor) :
    k.Reaches (skipField delimiter depth k) :=
  Cursor.reaches_after (untilField_append delimiter depth k.rest)

namespace Fields

/-- No more fields. -/
def stop (terminated : Bool) (k : Cursor) : Fields := ⟨[], [], terminated, k⟩

/-- What stands at a place where a field may start. -/
inductive Step where
  /-- The fields end here. -/
  | stop (terminated : Bool) (k : Cursor)
  /-- Something was read, and fields go on. -/
  | go (field : Option Field) (events : List Event) (k : Cursor)
  /-- Something was read, and the block is given up. -/
  | abandon (events : List Event) (k : Cursor)
deriving DecidableEq, Repr

/-- Goes on after a fault. -/
def Step.recover (delimiter : Delimiter) (fault : Diagnostic) (depth : Nat) (k : Cursor) : Step :=
  let k' := skipField delimiter depth k
  if fieldsGoOn k' then .go none [.fault fault] k' else .abandon [.fault fault] k'

/-- The value of a field whose name was read. -/
def Step.value (delimiter : Delimiter) (name : Symbol) (k : Cursor) : Step :=
  let value := Value.read delimiter k
  let references := value.references.map Event.reference
  match value.text with
  | some text => .go (some ⟨name, text⟩) references value.next
  | none => .abandon references value.next

/-- Reads at a place that is not white space. -/
def Step.read (delimiter : Delimiter) (here : Cursor) : Step :=
  match here.rest with
  | [] => .stop false here
  | c :: cs =>
      let next : Cursor := ⟨here.offset + c.utf8Size, cs⟩
      if c = delimiter.closing then .stop true next
      else if c = ',' then .go none [] next
      else if c = '@' then .stop false here
      else match readName here with
        | ([], _) =>
            recover delimiter (missingEquals ⟨here.offset, here.offset + 1⟩)
              (if c = '{' then 1 else 0) next
        | (name, after) =>
            let symbol := Symbol.ofText here.offset name
            let sign := skipBlanks after
            match sign.rest with
            | '=' :: cs => value delimiter symbol (sign.after ['='] cs)
            | _ => recover delimiter (missingEquals symbol.span) 0 sign

def Step.cursor : Step → Cursor
  | .stop _ k => k
  | .go _ _ k => k
  | .abandon _ k => k

theorem Step.cursor_recover (delimiter : Delimiter) (fault : Diagnostic) (depth : Nat)
    (k : Cursor) : (recover delimiter fault depth k).cursor = skipField delimiter depth k := by
  unfold recover
  simp only
  split <;> rfl

theorem Step.cursor_value (delimiter : Delimiter) (name : Symbol) (k : Cursor) :
    (value delimiter name k).cursor = (Value.read delimiter k).next := by
  unfold value
  simp only
  split <;> rfl

/-- The bytes before a place, at least one character of them, were read. -/
theorem Step.reaches_read (delimiter : Delimiter) (here : Cursor) :
    here.Reaches (read delimiter here).cursor := by
  unfold read
  split
  · exact Cursor.Reaches.refl here
  · rename_i c cs hcs
    have hnext : here.Reaches ⟨here.offset + c.utf8Size, cs⟩ :=
      ⟨[c], by simp [hcs], by simp⟩
    simp only
    split
    · exact hnext
    split
    · exact hnext
    split
    · exact Cursor.Reaches.refl here
    split
    · rw [cursor_recover]
      exact hnext.trans (reaches_skipField _ _ _)
    · rename_i name after _ hname
      have hn : here.Reaches after := by
        have := Cursor.reaches_upTo (startsWith (!isNameChar ·)) here
        simp only [readName] at hname
        rw [hname] at this
        exact this
      have hs := hn.trans (reaches_skipBlanks after)
      split
      · rename_i cs' hcs'
        rw [cursor_value]
        refine (hs.trans (Cursor.reaches_after ?_)).trans (Value.reaches_next _ _)
        simp [hcs']
      · rw [cursor_recover]
        exact hs.trans (reaches_skipField _ _ _)

theorem Step.go_length {delimiter : Delimiter} {here k : Cursor} {field : Option Field}
    {events : List Event} (h : read delimiter here = .go field events k) :
    k.rest.length < here.rest.length := by
  have hk : (read delimiter here).cursor = k := by rw [h]; rfl
  unfold read at h hk
  split at h
  · simp at h
  · rename_i c cs hcs
    simp only [hcs] at hk
    simp only [hcs, List.length_cons]
    simp only at h
    split at h
    · simp at h
    rename_i hclose
    simp only [hclose, if_false] at hk
    split at h
    · cases h
      simp
    rename_i hcomma
    simp only [hcomma, if_false] at hk
    split at h
    · simp at h
    rename_i hat
    simp only [hat, if_false] at hk
    split at h
    · rename_i hname
      simp only [hname, cursor_recover] at hk
      have := (reaches_skipField delimiter (if c = '{' then 1 else 0)
        ⟨here.offset + c.utf8Size, cs⟩).length_le
      rw [hk] at this
      simp only at this
      omega
    · rename_i name after hne hname
      have happ := congrArg List.length
        (Cursor.upTo_append (startsWith (!isNameChar ·)) here)
      have hname' := hname
      simp only [readName] at hname'
      rw [hname'] at happ
      simp only [hcs, List.length_append, List.length_cons] at happ
      have hpos : 0 < name.length := List.length_pos_iff.2 (by
        intro h0
        subst h0
        simp at hne)
      have hs := (reaches_skipBlanks after).length_le
      split at h
      · rename_i cs' hcs'
        have hv := (Value.reaches_next delimiter ((skipBlanks after).after ['='] cs')).length_le
        have hc : (Value.read delimiter ((skipBlanks after).after ['='] cs')).next = k := by
          rw [← cursor_value delimiter (Symbol.ofText here.offset name), h]; rfl
        rw [hc] at hv
        simp only [hcs', List.length_cons, Cursor.after] at hs hv
        omega
      · have hv := (reaches_skipField delimiter 0 (skipBlanks after)).length_le
        have hc : skipField delimiter 0 (skipBlanks after) = k := by
          rw [← cursor_recover delimiter (missingEquals (Symbol.ofText here.offset name).span), h]
          rfl
        rw [hc] at hv
        omega

/-- The fields from a place up to and including the closing delimiter. -/
def read (delimiter : Delimiter) (k : Cursor) : Fields :=
  let here := skipBlanks k
  match _h : Step.read delimiter here with
  | .stop terminated k' => stop terminated k'
  | .go field events k' =>
      let more := read delimiter k'
      { more with fields := field.toList ++ more.fields, events := events ++ more.events }
  | .abandon events k' => ⟨[], events, false, k'⟩
termination_by k.rest.length
decreasing_by
  have h1 : here.rest.length ≤ k.rest.length := (reaches_skipBlanks k).length_le
  have h2 := Step.go_length _h
  omega

theorem reaches_read (delimiter : Delimiter) (k : Cursor) : k.Reaches (read delimiter k).next := by
  induction k using read.induct delimiter with
  | case1 k here terminated k' h =>
    have hr := (reaches_skipBlanks k).trans (Step.reaches_read delimiter (skipBlanks k))
    unfold read
    simp only [here] at h
    simp only
    split <;> rename_i h' <;> rw [h] at h' <;> cases h'
    rw [h] at hr
    exact hr
  | case2 k here field events k' h ih =>
    have hr := (reaches_skipBlanks k).trans (Step.reaches_read delimiter (skipBlanks k))
    unfold read
    simp only [here] at h
    simp only
    split <;> rename_i h' <;> rw [h] at h' <;> cases h'
    rw [h] at hr
    exact hr.trans ih
  | case3 k here events k' h =>
    have hr := (reaches_skipBlanks k).trans (Step.reaches_read delimiter (skipBlanks k))
    unfold read
    simp only [here] at h
    simp only
    split <;> rename_i h' <;> rw [h] at h' <;> cases h'
    rw [h] at hr
    exact hr

/-- The problem of a block that starts at `start`, if its end was not found. -/
def faults (f : Fields) (start : Nat) : List Event :=
  if f.terminated then [] else [.fault (unterminated start)]

end Fields

/-! ## Blocks -/

/-- What a block holds, and where reading goes on. -/
structure Block where
  events : List Event
  next : Cursor
deriving DecidableEq, Repr

namespace Block

/-- The text through the delimiter that ends a skipped block, with `depth` groups open inside
it.  A closing brace ends a block in parentheses too. -/
def untilEnd? (delimiter : Delimiter) (depth : Nat) : List Char → Option (List Char × List Char)
  | [] => none
  | c :: cs =>
      let go := fun (depth : Nat) =>
        (untilEnd? delimiter depth cs).map fun (read, rest) => (c :: read, rest)
      if c = '{' then go (depth + 1)
      else if c = '}' ∨ (depth = 0 ∧ c = delimiter.closing) then
        match depth with
        | 0 => some ([c], cs)
        | depth + 1 => go depth
      else go depth

/-- A block whose content is not read. -/
def skipped (start : Nat) (delimiter : Delimiter) (k : Cursor) : Block :=
  match untilEnd? delimiter 0 k.rest with
  | some (read, rest) => ⟨[], k.after read rest⟩
  | none => ⟨[.fault (unterminated start)], k.after k.rest []⟩

/-- A block that declares names. -/
def strings (start : Nat) (delimiter : Delimiter) (k : Cursor) : Block :=
  let fields := Fields.read delimiter k
  ⟨fields.events ++ fields.fields.map (Event.string ∘ Field.name) ++ fields.faults start,
    fields.next⟩

/-- Where a citation key ends. -/
def endsKey (delimiter : Delimiter) : List Char → Bool :=
  startsWith fun c => c == ',' || c == delimiter.closing || c == '{' || c == '}' || isAsciiBlank c

/-- The value of the first field of a name, whatever its case. -/
def fieldText? (name : String) (fields : List Field) : Option String :=
  (fields.find? fun field => sameLetters field.name.name.toList name.toList).map
    fun field => Value.plain field.value

def entry (start : Nat) (kind : String) (delimiter : Delimiter) (k : Cursor) : Block :=
  let here := skipBlanks k
  let (word, after) := here.upTo (endsKey delimiter)
  let fields := Fields.read delimiter after
  let key := if word = [] then none else some (Symbol.ofText here.offset word)
  let keyFaults :=
    if word = [] then [.fault (missingKey kind ⟨start, here.offset⟩)] else []
  let found : Entry :=
    { kind, key, title := fieldText? "title" fields.fields, span := ⟨start, fields.next.offset⟩ }
  ⟨keyFaults ++ fields.events ++ fields.faults start ++ [.entry found], fields.next⟩

/-- The block after its delimiter. -/
def content (start : Nat) (kind : String) (delimiter : Delimiter) (k : Cursor) : Block :=
  if kind = "comment" ∨ kind = "preamble" then skipped start delimiter k
  else if kind = "string" then strings start delimiter k
  else entry start kind delimiter k

/-- The block whose at sign is at `start`; the cursor is after it. -/
def read (start : Nat) (k : Cursor) : Block :=
  match readName k with
  | ([], _) => ⟨[], k⟩
  | (name, after) =>
      let kind := String.ofList (lower name)
      let here := skipBlanks after
      match here.rest with
      | '{' :: rest => content start kind .brace (here.after ['{'] rest)
      | '(' :: rest => content start kind .parenthesis (here.after ['('] rest)
      | _ => ⟨[.fault (missingDelimiter kind ⟨start, after.offset⟩)], here⟩

theorem untilEnd?_append {delimiter : Delimiter} {depth : Nat} {cs read rest : List Char}
    (h : untilEnd? delimiter depth cs = some (read, rest)) : read ++ rest = cs := by
  induction cs generalizing depth read rest with
  | nil => simp [untilEnd?] at h
  | cons c cs ih =>
    have step : ∀ d, ((untilEnd? delimiter d cs).map fun p => (c :: p.1, p.2)) = some (read, rest) →
        read ++ rest = c :: cs := by
      intro d he
      obtain ⟨⟨r, s⟩, hr, hs⟩ := Option.map_eq_some_iff.1 he
      simp only [Prod.mk.injEq] at hs
      obtain ⟨rfl, rfl⟩ := hs
      simp [ih hr]
    unfold untilEnd? at h
    repeat' split at h
    all_goals first
      | exact step _ h
      | (simp only [Option.some.injEq, Prod.mk.injEq] at h; obtain ⟨rfl, rfl⟩ := h; rfl)

theorem reaches_content (start : Nat) (kind : String) (delimiter : Delimiter) (k : Cursor) :
    k.Reaches (content start kind delimiter k).next := by
  unfold content
  split
  · unfold skipped
    split
    · rename_i h
      exact Cursor.reaches_after (untilEnd?_append h)
    · exact Cursor.reaches_after (by simp)
  split
  · exact Fields.reaches_read delimiter k
  · exact ((reaches_skipBlanks k).trans (Cursor.reaches_upTo _ _)).trans
      (Fields.reaches_read delimiter _)

theorem reaches_read (start : Nat) (k : Cursor) : k.Reaches (read start k).next := by
  unfold read
  split
  · exact Cursor.Reaches.refl k
  · rename_i name after _ hname
    have hn : k.Reaches after := by
      have := Cursor.reaches_upTo (startsWith (!isNameChar ·)) k
      simp only [readName] at hname
      rw [hname] at this
      exact this
    have hs := hn.trans (reaches_skipBlanks after)
    simp only
    split
    · rename_i rest hr
      exact (hs.trans (Cursor.reaches_after (by simp [hr]))).trans (reaches_content _ _ _ _)
    · rename_i rest hr
      exact (hs.trans (Cursor.reaches_after (by simp [hr]))).trans (reaches_content _ _ _ _)
    · exact hs

end Block

/-! ## The scan -/

/-- Everything the blocks from a place on hold. -/
def scan (k : Cursor) : List Event :=
  let here := (k.upTo (startsWith (· == '@'))).2
  match _h : here.rest with
  | [] => []
  | c :: cs =>
      let block := Block.read here.offset ⟨here.offset + c.utf8Size, cs⟩
      block.events ++ scan block.next
termination_by k.rest.length
decreasing_by
  have h1 : here.rest.length ≤ k.rest.length := (Cursor.reaches_upTo _ k).length_le
  have h2 : block.next.rest.length ≤ cs.length := (Block.reaches_read here.offset _).length_le
  have h3 := congrArg List.length _h
  simp only [List.length_cons] at h3
  show block.next.rest.length < k.rest.length
  omega

end Manuscript.Bibtex
