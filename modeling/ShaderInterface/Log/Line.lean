import ShaderInterface.Log.Calendar
import ShaderInterface.Log.Message

/-! Log lines: the text of an entry, plain or with the colours of a terminal. Both forms share one
layout, into which the severity and the source go as they are or painted. -/
namespace ShaderInterface.Log

structure Entry where
  time : Calendar.Instant
  message : Message
  deriving DecidableEq

/-- Colour of a piece of text, given by the parameters of its opening sequence. -/
structure Colour where
  code : String
  deriving DecidableEq

namespace Colour

def ofSeverity : Severity → Colour
  | .trace => ⟨"90"⟩
  | .debug => ⟨"36"⟩
  | .info => ⟨"32"⟩
  | .warn => ⟨"33"⟩
  | .error => ⟨"1;31"⟩

def ofSource : Colour := ⟨"94"⟩

def escapeChar : Char := '\x1b'

def opening (colour : Colour) : List Char :=
  [escapeChar, '['] ++ colour.code.toList ++ ['m']

def reset : List Char := [escapeChar, '[', '0', 'm']

/-- Text in which the colour is switched on again after each reset. -/
def resume (colour : Colour) : List Char → List Char
  | [] => []
  | '\x1b' :: '[' :: '0' :: 'm' :: rest => reset ++ colour.opening ++ resume colour rest
  | c :: rest => c :: resume colour rest

def paint (colour : Colour) (text : String) : String :=
  String.ofList (colour.opening ++ resume colour text.toList ++ reset)

end Colour

namespace Line

def siteText (message : Message) : String :=
  match message.site? with
  | some site => " (" ++ site.file ++ ":" ++ toString site.line.toNat ++ ")"
  | none => ""

def body (label source text : String) : String :=
  "[" ++ label ++ "] [" ++ source ++ "] " ++ text

/-- The layout of a line: time, label, source, message and place. The clock is `offset` seconds
ahead of universal time. -/
def layout (offset : Int) (time : Calendar.Instant) (label source : String) (message : Message) :
    String :=
  "[" ++ time.text offset ++ "] " ++ body label source message.text ++ siteText message

def label (coloured : Bool) (severity : Severity) : String :=
  if coloured then (Colour.ofSeverity severity).paint severity.label else severity.label

def source (coloured : Bool) (name : String) : String :=
  if coloured then Colour.ofSource.paint name else name

def shown (coloured : Bool) (message : Message) : String :=
  body (label coloured message.severity) (source coloured message.source) message.text

end Line

namespace Entry

def format (offset : Int) (entry : Entry) : String :=
  Line.layout offset entry.time entry.message.severity.label entry.message.source entry.message

/-- What a console prints for an entry, with the newline that ends it. -/
def printed (offset : Int) (coloured : Bool) (entry : Entry) : String :=
  Line.layout offset entry.time (Line.label coloured entry.message.severity)
    (Line.source coloured entry.message.source) entry.message ++ "\n"

end Entry

end ShaderInterface.Log
