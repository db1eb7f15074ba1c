import TaskRunner.Bytes

/-! What happens while a root is being satisfied, in the order in which it happens: a task is
started, an action is given to the runner and leaves its output, a task is finished. The notices
about tasks are shown one to a line. Names in them can be set in bold, and the tick of a finished
task in green. -/

namespace TaskRunner

inductive Event where
  | started (name : String)
  | ran (action : String) (output : Bytes)
  | finished (name : String)
  deriving DecidableEq, Repr

inductive Style where
  | bold
  | green
  | boldGreen
  | boldRed
  deriving DecidableEq, Repr

namespace Style

def escape : Char := '\x1b'

def parameters : Style → List Char
  | .bold => ['1']
  | .green => ['3', '2']
  | .boldGreen => ['1', ';', '3', '2']
  | .boldRed => ['1', ';', '3', '1']

def opening (style : Style) : List Char := escape :: '[' :: style.parameters ++ ['m']

/-- Text that ends a style inside takes it up again behind that place. -/
def resume (style : Style) : List Char → List Char
  | [] => []
  | '\x1b' :: '[' :: '0' :: 'm' :: rest =>
    '\x1b' :: '[' :: '0' :: 'm' :: style.opening ++ style.resume rest
  | c :: rest => c :: style.resume rest

/-- Sets a text in this style; without colours it stays as it is. -/
def apply (style : Style) (color : Bool) (text : String) : String :=
  if color then
    String.ofList (style.opening ++ style.resume text.toList ++ [escape, '[', '0', 'm'])
  else text

end Style

namespace Event

def finishedTask? : Event → Option String
  | .finished name => some name
  | _ => none

def action? : Event → Option String
  | .ran action _ => some action
  | _ => none

def render (color : Bool) : Event → Bytes
  | .started name => Bytes.ofString s!"\"{Style.bold.apply color name}\" task is started.\n"
  | .ran _ output => output
  | .finished name =>
    Bytes.ofString (Style.green.apply color "✓" ++
      s!" \"{Style.bold.apply color name}\" task is finished.\n")

def renderAll (color : Bool) (events : List Event) : Bytes := events.flatMap (render color)

end Event
end TaskRunner
