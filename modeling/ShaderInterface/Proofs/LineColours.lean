import ShaderInterface.Log.Line

/-! Coloured lines and plain ones. Whoever deletes the escape sequences from a coloured line is left
with the plain line, whatever brackets, digits and letters its texts are made of, as long as they
hold no escape character themselves. -/
namespace ShaderInterface.Log

open Colour (escapeChar)

/-- Whether an escape sequence starts at a character: a bracket is next to it, and the letter that
ends the sequence is somewhere behind. -/
def startsSequence (c : Char) (rest : List Char) : Bool :=
  c == escapeChar && rest.head? == some '[' && rest.contains 'm'

/-- Deletes escape sequences, each up to the next letter `m`; `inside` tells whether one has
started. -/
def deleteSequences : (inside : Bool) → List Char → List Char
  | _, [] => []
  | true, c :: rest => deleteSequences (c != 'm') rest
  | false, c :: rest =>
    if startsSequence c rest then deleteSequences true rest else c :: deleteSequences false rest

def withoutSequences (text : String) : String := .ofList (deleteSequences false text.toList)

def IsPlain (text : String) : Prop := escapeChar ∉ text.toList

instance : DecidablePred IsPlain :=
  fun text => inferInstanceAs (Decidable (escapeChar ∉ text.toList))

/-- A text that loses its escape sequences and becomes another, whatever comes behind it. -/
def StripsTo (shown plain : String) : Prop :=
  ∀ rest, deleteSequences false (shown.toList ++ rest) = plain.toList ++ deleteSequences false rest

section Deletion

variable {colour : Colour} {c : Char} {front parameters text : List Char}

theorem deleteSequences_cons_of_ne (other : c ≠ escapeChar) (rest : List Char) :
    deleteSequences false (c :: rest) = c :: deleteSequences false rest := by
  simp [deleteSequences, startsSequence, other]

theorem deleteSequences_append (plain : escapeChar ∉ front) (back : List Char) :
    deleteSequences false (front ++ back) = front ++ deleteSequences false back := by
  induction front with
  | nil => rfl
  | cons c front ih =>
    have other : c ≠ escapeChar := (List.ne_of_not_mem_cons plain).symm
    rw [List.cons_append, deleteSequences_cons_of_ne other,
      ih (List.not_mem_of_not_mem_cons plain), List.cons_append]

theorem deleteSequences_inside (free : 'm' ∉ parameters) (rest : List Char) :
    deleteSequences true (parameters ++ 'm' :: rest) = deleteSequences false rest := by
  induction parameters with
  | nil => rfl
  | cons c parameters ih =>
    have goesOn : (c != 'm') = true := bne_iff_ne.mpr (List.ne_of_not_mem_cons free).symm
    rw [List.cons_append, deleteSequences, goesOn, ih (List.not_mem_of_not_mem_cons free)]

theorem deleteSequences_sequence (free : 'm' ∉ parameters) (rest : List Char) :
    deleteSequences false ([escapeChar, '['] ++ parameters ++ 'm' :: rest) =
      deleteSequences false rest := by
  have starts : startsSequence escapeChar ('[' :: (parameters ++ 'm' :: rest)) = true := by
    simp [startsSequence]
  have behind : 'm' ∉ '[' :: parameters := by simp [free]
  show deleteSequences false (escapeChar :: '[' :: (parameters ++ 'm' :: rest)) = _
  rw [deleteSequences, if_pos starts]
  exact deleteSequences_inside behind rest

/-- Colours need not be switched on again in a text that switches none off. -/
theorem resume_of_plain (plain : escapeChar ∉ text) : colour.resume text = text := by
  fun_induction Colour.resume colour text with
  | case1 => rfl
  | case2 rest ih => exact absurd (List.mem_cons_self ..) plain
  | case3 c rest _ ih => rw [ih (List.not_mem_of_not_mem_cons plain)]

end Deletion

theorem Colour.toList_paint (colour : Colour) {text : String} (plain : IsPlain text) :
    (colour.paint text).toList = colour.opening ++ text.toList ++ Colour.reset := by
  rw [Colour.paint, String.toList_ofList, resume_of_plain plain]

section Stripping

variable {one other shown plain text : String}

theorem isPlain_append : IsPlain (one ++ other) ↔ IsPlain one ∧ IsPlain other := by
  rw [IsPlain, String.toList_append, List.mem_append, not_or]
  rfl

theorem IsPlain.stripsTo (plain : IsPlain text) : StripsTo text text :=
  fun rest => deleteSequences_append plain rest

theorem StripsTo.append {shownBehind plainBehind : String} (front : StripsTo shown plain)
    (behind : StripsTo shownBehind plainBehind) :
    StripsTo (shown ++ shownBehind) (plain ++ plainBehind) := by
  intro rest
  rw [String.toList_append, List.append_assoc, front, behind, String.toList_append,
    List.append_assoc]

theorem StripsTo.withoutSequences_eq (strips : StripsTo shown plain) :
    withoutSequences shown = plain := by
  have whole := strips []
  rw [List.append_nil, deleteSequences, List.append_nil] at whole
  rw [withoutSequences, whole, String.ofList_toList]

theorem stripsTo_paint {colour : Colour} (code : 'm' ∉ colour.code.toList) (plain : IsPlain text) :
    StripsTo (colour.paint text) text := by
  intro rest
  have reset : 'm' ∉ ['0'] := by decide
  have split : (colour.paint text).toList ++ rest =
      [escapeChar, '['] ++ colour.code.toList ++
        'm' :: (text.toList ++ ([escapeChar, '['] ++ ['0'] ++ 'm' :: rest)) := by
    rw [Colour.toList_paint colour plain, Colour.opening, Colour.reset]
    simp
  rw [split, deleteSequences_sequence code, deleteSequences_append plain,
    deleteSequences_sequence reset]

end Stripping

/-! What a line holds besides the texts of its message has no escape character: labels, numbers and
the time. -/

theorem isPlain_label (severity : Severity) : IsPlain severity.label := by
  cases severity <;> decide

theorem escapeChar_not_mem_toDigits (number : Nat) : escapeChar ∉ Nat.toDigits 10 number := by
  intro escape
  exact absurd (Nat.isDigit_of_mem_toDigits (by decide) (by decide) escape) (by decide)

theorem isPlain_toString (number : Nat) : IsPlain (toString number) := by
  rw [IsPlain, Nat.toString_eq_repr, Nat.repr, String.toList_ofList]
  exact escapeChar_not_mem_toDigits number

theorem isPlain_padded (width value : Nat) : IsPlain (Calendar.padded width value) := by
  rw [IsPlain, Calendar.padded, String.toList_ofList, List.mem_append, not_or]
  refine ⟨fun escape => ?_, escapeChar_not_mem_toDigits value⟩
  exact absurd (List.eq_of_mem_replicate escape) (by decide)

theorem isPlain_yearText (year : Int) : IsPlain (Calendar.yearText year) := by
  have digits := isPlain_padded 4 year.natAbs
  rw [Calendar.yearText]
  split
  · exact isPlain_append.mpr ⟨by decide, digits⟩
  · split
    · exact isPlain_append.mpr ⟨by decide, digits⟩
    · exact digits

theorem isPlain_time (offset : Int) (time : Calendar.Instant) : IsPlain (time.text offset) := by
  have dash : IsPlain "-" := by decide
  have colon : IsPlain ":" := by decide
  have blank : IsPlain " " := by decide
  have point : IsPlain "." := by decide
  simp only [Calendar.Instant.text, isPlain_append, isPlain_yearText, isPlain_padded, dash, colon,
    blank, point, and_self]

structure PlainMessage (message : Message) : Prop where
  source : IsPlain message.source
  text : IsPlain message.text
  file : ∀ file, message.file = some file → IsPlain file

theorem file_of_site? {message : Message} {site : Site} (known : message.site? = some site) :
    message.file = some site.file := by
  rw [Message.site?] at known
  split at known
  · next file line =>
    cases known
    exact file
  · cases known

theorem PlainMessage.isPlain_siteText {message : Message} (plain : PlainMessage message) :
    IsPlain (Line.siteText message) := by
  rw [Line.siteText]
  split
  · next site known =>
    have opening : IsPlain " (" := by decide
    have colon : IsPlain ":" := by decide
    have closing : IsPlain ")" := by decide
    have file : IsPlain site.file := plain.file _ (file_of_site? known)
    simp only [isPlain_append, file, isPlain_toString, opening, colon, closing, and_self]
  · decide

/-- Whatever goes into the layout as label and source, nothing else of the line changes where their
sequences are deleted. -/
theorem PlainMessage.stripsTo_layout {message : Message} (plain : PlainMessage message)
    (offset : Int) (time : Calendar.Instant) {label source shownLabel shownSource : String}
    (labels : StripsTo shownLabel label) (sources : StripsTo shownSource source) :
    StripsTo (Line.layout offset time shownLabel shownSource message)
      (Line.layout offset time label source message) := by
  have bracket : StripsTo "[" "[" := IsPlain.stripsTo (by decide)
  have between : StripsTo "] [" "] [" := IsPlain.stripsTo (by decide)
  have behind : StripsTo "] " "] " := IsPlain.stripsTo (by decide)
  have body : StripsTo (Line.body shownLabel shownSource message.text)
      (Line.body label source message.text) :=
    ((((bracket.append labels).append between).append sources).append behind).append
      plain.text.stripsTo
  exact (((bracket.append (isPlain_time offset time).stripsTo).append behind).append body).append
    plain.isPlain_siteText.stripsTo

theorem code_ofSeverity (severity : Severity) : 'm' ∉ (Colour.ofSeverity severity).code.toList := by
  cases severity <;> decide

/-- Without colours a line is printed as it is formatted. With colours it is printed so that it is
left as it is formatted when the escape sequences are deleted, if no text of its message has an
escape character. Both hold wherever the clock stands. -/
theorem printed_agrees (offset : Int) (entry : Entry) :
    entry.printed offset false = entry.format offset ++ "\n" ∧
      (PlainMessage entry.message →
        withoutSequences (entry.printed offset true) = entry.format offset ++ "\n") := by
  refine ⟨rfl, fun plain => ?_⟩
  have labels : StripsTo (Line.label true entry.message.severity) entry.message.severity.label :=
    stripsTo_paint (code_ofSeverity _) (isPlain_label _)
  have sources : StripsTo (Line.source true entry.message.source) entry.message.source :=
    stripsTo_paint (by decide) plain.source
  have newline : StripsTo "\n" "\n" := IsPlain.stripsTo (by decide)
  have line := plain.stripsTo_layout offset entry.time labels sources
  exact (line.append newline).withoutSequences_eq

def sampleEntry : Entry :=
  ⟨⟨1700000000, 5000000⟩, .placed .error "galaxy3d::[0m" "%11 member[31m] (m)" ⟨"m;1.rs", 42⟩⟩

theorem printed_agrees_sample :
    PlainMessage sampleEntry.message ∧
      sampleEntry.printed 3600 false = sampleEntry.format 3600 ++ "\n" ∧
      withoutSequences (sampleEntry.printed 3600 true) = sampleEntry.format 3600 ++ "\n" ∧
      (sampleEntry.printed 3600 true).toList.count escapeChar = 4 := by
  have plain : PlainMessage sampleEntry.message := by
    refine ⟨by decide, by decide, ?_⟩
    rintro _ ⟨⟩
    decide
  exact ⟨plain, (printed_agrees 3600 sampleEntry).1, (printed_agrees 3600 sampleEntry).2 plain,
    by decide +kernel⟩

end ShaderInterface.Log
