import Caret.Proofs.Reading
import Caret.Proofs.Sweep

/-!
# How lines end

A line ends in a newline, with or without a carriage return before it.  `writeLines` writes lines with ends
chosen one by one, and scanning gives the lines back whatever was chosen (`scanLines_writeLines`).

A `Document` is a text given by its lines and their ends; with all carriage returns left out it is
`Document.normal`.  Both scan to the same lines (`scanLines_normal`), and what an offset is located by is the
lines alone (`Location.find?_congr`).  So an offset up to the end of the normal text is located alike in both,
and what is shown of it is the same; an offset past it belongs to the last line (`Document.find?_normal`).
-/

namespace Caret

open Text

namespace Text

/-! ## Writing lines -/

/-- How a line ends. -/
inductive LineEnd
  | newline
  | returnNewline
deriving DecidableEq

namespace LineEnd

/-- The bytes of a line's end. -/
def bytes : LineEnd → List UInt8
  | newline => [Text.newline]
  | returnNewline => [carriageReturn, Text.newline]

/-- The characters of a line's end. -/
def chars : LineEnd → List Char
  | newline => ['\n']
  | returnNewline => ['\r', '\n']

theorem encode_chars (e : LineEnd) : encode e.chars = e.bytes := by
  cases e <;> decide

theorem length_bytes_pos (e : LineEnd) : 1 ≤ e.bytes.length := by
  cases e <;> decide

end LineEnd

/-- The bytes of lines, each with its end. -/
def writeLines : List (List UInt8 × LineEnd) → List UInt8
  | [] => []
  | (l, e) :: ls => l ++ e.bytes ++ writeLines ls

theorem stripReturn_of_ne {l : List UInt8} (h : l.getLast? ≠ some carriageReturn) : stripReturn l = l :=
  if_neg h

theorem stripReturn_append_return (l : List UInt8) : stripReturn (l ++ [carriageReturn]) = l := by
  rw [stripReturn, if_pos List.getLast?_concat, List.dropLast_concat]

theorem newline_notMem_append_return {l : List UInt8} (hn : newline ∉ l) :
    newline ∉ l ++ [carriageReturn] := by
  rw [List.mem_append, not_or]
  exact ⟨hn, by decide⟩

/-- A line and its end are what stands up to a newline, and the newline. A carriage return of the line's own is
kept only if the end has another one. -/
theorem exists_upTo (l : List UInt8) (e : LineEnd) (hn : newline ∉ l)
    (hr : e = .newline → l.getLast? ≠ some carriageReturn) :
    ∃ r, newline ∉ r ∧ stripReturn r = l ∧ l ++ e.bytes = r ++ [newline] := by
  cases e with
  | newline => exact ⟨l, hn, stripReturn_of_ne (hr rfl), rfl⟩
  | returnNewline =>
    exact ⟨l ++ [carriageReturn], newline_notMem_append_return hn, stripReturn_append_return l,
      by simp [LineEnd.bytes]⟩

/-- A line is read up to its end. -/
theorem scanLines_end (l rest : List UInt8) (e : LineEnd) (hn : newline ∉ l)
    (hr : e = .newline → l.getLast? ≠ some carriageReturn) :
    scanLines (l ++ e.bytes ++ rest) = l :: scanLines rest := by
  obtain ⟨r, hnr, rfl, hbytes⟩ := exists_upTo l e hn hr
  rw [hbytes, List.append_assoc, List.singleton_append, scanLines_line r rest hnr]

/-- **Scanning gives back the lines written**, whatever their ends, and goes on with what stands after. -/
theorem scanLines_writeLines (ls : List (List UInt8 × LineEnd)) (rest : List UInt8)
    (hn : ∀ l ∈ ls, newline ∉ l.1)
    (hr : ∀ l ∈ ls, l.2 = .newline → l.1.getLast? ≠ some carriageReturn) :
    scanLines (writeLines ls ++ rest) = ls.map Prod.fst ++ scanLines rest := by
  induction ls with
  | nil => rfl
  | cons l ls ih =>
    obtain ⟨l, e⟩ := l
    have htail := ih (fun l' hl' => hn l' (List.mem_cons_of_mem _ hl'))
      (fun l' hl' => hr l' (List.mem_cons_of_mem _ hl'))
    rw [writeLines, List.append_assoc,
      scanLines_end l _ e (hn (l, e) List.mem_cons_self) (hr (l, e) List.mem_cons_self), htail]
    rfl

/-- A last line that nothing ends. -/
theorem scanLines_last (r : List UInt8) (hn : newline ∉ r) (hr : r.getLast? ≠ some carriageReturn) :
    scanLines r = if r = [] then [] else [r] := by
  rw [scanLines, rawLines_last r hn]
  split
  · rfl
  · rw [List.map_singleton, stripReturn_of_ne hr]

/-- Written without carriage returns, lines take no more bytes. -/
theorem length_writeLines_newline_le (ls : List (List UInt8 × LineEnd)) :
    (writeLines (ls.map fun l => (l.1, .newline))).length ≤ (writeLines ls).length := by
  induction ls with
  | nil => exact Nat.le_refl 0
  | cons l ls ih =>
    obtain ⟨l, e⟩ := l
    have he := e.length_bytes_pos
    simp only [List.map_cons, writeLines, List.length_append]
    show l.length + 1 + _ ≤ _
    omega

/-! ## Characters of one byte -/

/-- A character of one byte stands for the same byte wherever it is found. -/
theorem eq_of_mem_encodeChar {c d : Char} {b : UInt8} (hd : String.utf8EncodeChar d = [b])
    (hb : b.toNat ≤ 0x7F) (h : b ∈ String.utf8EncodeChar c) : c = d := by
  have hc := encodeChar_of_mem h hb
  have hcs := decode_encode [c]
  have hds := decode_encode [d]
  rw [encode_cons, encode_nil, hc] at hcs
  rw [encode_cons, encode_nil, hd, hcs] at hds
  exact List.head_eq_of_cons_eq hds

theorem newline_notMem_encode {cs : List Char} (h : '\n' ∉ cs) : newline ∉ encode cs := by
  intro hm
  obtain ⟨c, hc, hb⟩ := List.mem_flatMap.1 hm
  obtain rfl : c = '\n' := eq_of_mem_encodeChar (by decide) (by decide) hb
  exact h hc

theorem getLast?_encode_ne {cs : List Char} (h : cs.getLast? ≠ some '\r') :
    (encode cs).getLast? ≠ some carriageReturn := by
  intro hm
  rcases List.eq_nil_or_concat cs with rfl | ⟨ds, c, rfl⟩
  · cases hm
  · have hne : String.utf8EncodeChar c ≠ [] := by
      rw [← List.length_pos_iff, String.length_utf8EncodeChar]
      exact c.utf8Size_pos
    have hlast := List.getLast?_eq_some_getLast hne
    rw [List.concat_eq_append, encode_append, encode_cons, encode_nil, List.append_nil,
      List.getLast?_append, hlast, Option.some_or, ← hlast] at hm
    obtain rfl : c = '\r' := eq_of_mem_encodeChar (by decide) (by decide) (List.mem_of_getLast? hm)
    rw [List.concat_eq_append] at h
    exact h List.getLast?_concat

end Text

/-! ## Documents -/

/-- A line by itself: no newline in it, and no carriage return at its end. -/
def IsPlain (cs : List Char) : Prop := '\n' ∉ cs ∧ cs.getLast? ≠ some '\r'

instance (cs : List Char) : Decidable (IsPlain cs) := inferInstanceAs (Decidable (_ ∧ _))

/-- A text by its lines. What stands behind the last line's end is `last`, which is empty where the text
stops there. -/
structure Document where
  ended : List (List Char × LineEnd)
  last : List Char
  isPlain_ended : ∀ l ∈ ended, IsPlain l.1
  isPlain_last : IsPlain last

namespace Document

/-- The characters of lines, each with its end. -/
def writeChars : List (List Char × LineEnd) → List Char
  | [] => []
  | (l, e) :: ls => l ++ e.chars ++ writeChars ls

/-- The text of a document. -/
def text (d : Document) : String := String.ofList (writeChars d.ended ++ d.last)

/-- The lines of a document. -/
def lines (d : Document) : List (List Char) :=
  d.ended.map Prod.fst ++ if d.last = [] then [] else [d.last]

/-- The document with a newline alone at the end of each line. -/
def normal (d : Document) : Document where
  ended := d.ended.map fun l => (l.1, .newline)
  last := d.last
  isPlain_ended := by
    intro l hl
    obtain ⟨l', hl', rfl⟩ := List.mem_map.1 hl
    exact d.isPlain_ended l' hl'
  isPlain_last := d.isPlain_last

/-- Lines as bytes, each with its end. -/
def encodeLines (ls : List (List Char × LineEnd)) : List (List UInt8 × LineEnd) :=
  ls.map fun l => (encode l.1, l.2)

theorem encode_writeChars (ls : List (List Char × LineEnd)) :
    encode (writeChars ls) = writeLines (encodeLines ls) := by
  induction ls with
  | nil => rfl
  | cons l ls ih =>
    obtain ⟨l, e⟩ := l
    rw [writeChars, encode_append, encode_append, e.encode_chars, ih]
    rfl

section
variable (d : Document)

theorem bytes_text : bytes d.text = writeLines (encodeLines d.ended) ++ encode d.last := by
  rw [text, bytes_ofList, encode_append, encode_writeChars]

theorem lines_normal : d.normal.lines = d.lines := by
  unfold lines normal
  rw [List.map_map]
  rfl

/-- A document scans to its lines. -/
theorem scanLines_text : scanLines (bytes d.text) = d.lines.map encode := by
  have hplain (l : List UInt8 × LineEnd) (hl : l ∈ encodeLines d.ended) :
      newline ∉ l.1 ∧ l.1.getLast? ≠ some carriageReturn := by
    obtain ⟨l', hl', rfl⟩ := List.mem_map.1 hl
    obtain ⟨hn, hr⟩ := d.isPlain_ended l' hl'
    exact ⟨newline_notMem_encode hn, getLast?_encode_ne hr⟩
  have hlast : scanLines (encode d.last) = (if d.last = [] then [] else [d.last]).map encode := by
    rw [scanLines_last _ (newline_notMem_encode d.isPlain_last.1) (getLast?_encode_ne d.isPlain_last.2)]
    by_cases hempty : d.last = []
    · rw [if_pos hempty, hempty]
      rfl
    · have hne : encode d.last ≠ [] := by
        intro h
        have := decode_encode d.last
        rw [h] at this
        exact hempty this.symm
      rw [if_neg hempty, if_neg hne]
      rfl
  rw [bytes_text, scanLines_writeLines _ _ (fun l hl => (hplain l hl).1) (fun l hl _ => (hplain l hl).2),
    hlast, lines, List.map_append, encodeLines, List.map_map, List.map_map]
  rfl

theorem scanLines_normal : scanLines (bytes d.normal.text) = scanLines (bytes d.text) := by
  rw [scanLines_text, scanLines_text, lines_normal]

theorem length_lines_pos (h : 0 < size d.text) : 0 < d.lines.length := by
  rw [← List.length_map (f := encode), ← scanLines_text, List.length_pos_iff, Ne, scanLines_eq_nil_iff]
  exact List.length_pos_iff.1 h

theorem size_normal_le : size d.normal.text ≤ size d.text := by
  have hle := length_writeLines_newline_le (encodeLines d.ended)
  have hends : encodeLines d.normal.ended = (encodeLines d.ended).map fun l => (l.1, .newline) := by
    unfold encodeLines normal
    rw [List.map_map, List.map_map]
    rfl
  rw [size, size, bytes_text, bytes_text, hends, List.length_append, List.length_append]
  show _ + (encode d.last).length ≤ _
  omega

end

end Document

/-! ## Locations in both texts -/

namespace Location

/-- Where an offset is found depends on the scanned lines alone. -/
theorem find?_congr {source source' : String} {pos : Nat}
    (h : scanLines (bytes source) = scanLines (bytes source')) (hpos : pos ≤ size source)
    (hpos' : pos ≤ size source') : find? source pos = find? source' pos := by
  rw [find?, find?, if_neg (by omega), if_neg (by omega), Line.ofText, Line.ofText, h]

end Location

namespace Diagnostic

theorem render_congr {source source' : String} {e : PositionedError} (s : Settings)
    (h : Location.find? source e.pos = Location.find? source' e.pos) :
    render s e source = render s e source' := by
  rw [render_eq, render_eq, h]

end Diagnostic

namespace Document

/-! ## Top theorem -/

/-- **The ends of the lines do not matter** for where an offset is found, nor for what is shown of it, up to
the end of the text without carriage returns. Past it all offsets belong to the last line. -/
theorem find?_normal (d : Document) :
    (∀ pos, pos ≤ size d.normal.text →
      (∃ l, Location.find? d.normal.text pos = some l ∧ Location.find? d.text pos = some l) ∧
      ∀ (s : Settings) (expected : String),
        Diagnostic.render s ⟨pos, expected⟩ d.text = Diagnostic.render s ⟨pos, expected⟩ d.normal.text) ∧
    ∀ pos, size d.normal.text < pos → pos ≤ size d.text →
      ∃ l column, Location.find? d.normal.text (size d.normal.text) = some l ∧
        l.line.number = d.lines.length ∧
        Location.find? d.text pos = some ⟨l.line, column⟩ ∧ l.line.start + column = pos := by
  have hls := d.scanLines_normal
  have hsize := d.size_normal_le
  refine ⟨?_, ?_⟩
  · intro pos hpos
    have hsame := Location.find?_congr hls hpos (Nat.le_trans hpos hsize)
    obtain ⟨l, hl⟩ := Location.exists_find? hpos
    refine ⟨⟨l, hl, by rw [← hsame, hl]⟩, ?_⟩
    intro s expected
    exact Diagnostic.render_congr s hsame.symm
  · intro pos hlt hpos
    have hend := Line.owns_length (bytes d.normal.text)
    have hlast := hend.of_last (q := pos) (Nat.le_of_lt hlt) (by omega)
    have hnormal := Location.find?_eq_of_owns (Nat.le_refl _) hend
    have htext := Location.find?_eq_of_owns hpos (hls ▸ hlast)
    -- there is a line, since there is a byte
    have hlines := d.length_lines_pos (by omega)
    have hlength : (scanLines (bytes d.text)).length = d.lines.length := by
      rw [scanLines_text, List.length_map]
    rw [hls] at hnormal
    have hsum := Location.start_add_column htext
    refine ⟨_, _, hnormal, ?_, htext, hsum⟩
    show max 1 (scanLines (bytes d.text)).length - 1 + 1 = _
    omega

/-- Two lines end in a carriage return and a newline, so the text has two bytes more than the normal one. -/
theorem find?_normal_mixed_ends :
    ∃ d : Document, d.text = "a\r\n\nb\r\n" ∧ d.normal.text = "a\n\nb\n" ∧
      4 ≤ size d.normal.text ∧
      (∃ l, Location.find? d.normal.text 4 = some l ∧ Location.find? d.text 4 = some l) ∧
      size d.normal.text < 7 ∧ 7 ≤ size d.text ∧
      ∃ l column, Location.find? d.text 7 = some ⟨l, column⟩ ∧ l.number = 3 ∧ l.start + column = 7 := by
  let d : Document := {
    ended := [(['a'], .returnNewline), ([], .newline), (['b'], .returnNewline)]
    last := []
    isPlain_ended := by decide
    isPlain_last := by decide }
  have h4 : 4 ≤ size d.normal.text := by decide
  have h5 : size d.normal.text < 7 := by decide
  have h7 : 7 ≤ size d.text := by decide
  obtain ⟨hin, hpast⟩ := d.find?_normal
  obtain ⟨l, column, -, hn, hf, hc⟩ := hpast 7 h5 h7
  exact ⟨d, by decide, by decide, h4, (hin 4 h4).1, h5, h7, l.line, column, hf, hn, hc⟩

end Document

end Caret
