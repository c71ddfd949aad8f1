import DatasetSearch.Files
import DatasetSearch.Http

/-! Programs as dialogues with the world.

A program asks for something and goes on with the answer: a reply from a server, a text from a file.
A program is a finite tree, so a loop over lines of input is a node of it. What a round does is the
program's own, and each round that does not end the loop reads one line, so it is over with the input
at the latest. Nothing in a program says how the world answers. `run` is one world, made of given
replies, input lines and files; it also notes what the program sent and printed. -/
namespace DatasetSearch

/-- What a round of a loop does: it ends the loop, or it reads one line of input. -/
inductive Round (σ β : Type) where
  | stop (result : β)
  /-- With a line there is another round. Without one the loop is over, be it that the input has
  ended or that there is a fault in reading it. -/
  | read (line : String → σ) (last : Option Files.Fault → β)

inductive Program (α : Type) : Type 1 where
  | done (result : α)
  | fetch (request : Http.Request) (next : Http.Reply → Program α)
  | loop {σ β : Type} (state : σ) (round : σ → Round σ β) (next : β → Program α)
  | print (line : String) (next : Program α)
  | readText (path : String) (next : Except Files.Fault String → Program α)
  | writeText (path text : String) (next : Option Files.Fault → Program α)
  | rename (source target : String) (next : Option Files.Fault → Program α)

namespace Program
variable {α β : Type}

def bind : Program α → (α → Program β) → Program β
  | done a, f => f a
  | fetch r next, f => fetch r fun x => (next x).bind f
  | loop s round next, f => loop s round fun x => (next x).bind f
  | print line next, f => print line (next.bind f)
  | readText path next, f => readText path fun x => (next x).bind f
  | writeText path text next, f => writeText path text fun x => (next x).bind f
  | rename source target next, f => rename source target fun x => (next x).bind f

/-! ### A world of given answers -/

structure World where
  /-- What the server says to each request, in order. -/
  replies : List (Http.Request → Http.Reply) := []
  /-- The lines of input that are not read yet, or what is at fault where one cannot be read. -/
  input : List (Except Files.Fault String) := []
  files : Files.Tree := .empty
  /-- The requests sent so far. -/
  requests : List Http.Request := []
  /-- The lines printed so far. -/
  output : List String := []

/-- The rounds of a loop on given lines: its result, and the lines that it leaves unread. -/
def rounds {σ β : Type} (round : σ → Round σ β) (s : σ) :
    List (Except Files.Fault String) → β × List (Except Files.Fault String)
  | [] =>
    match round s with
    | .stop result => (result, [])
    | .read _ last => (last none, [])
  | x :: rest =>
    match round s, x with
    | .stop result, x => (result, x :: rest)
    | .read line _, .ok text => rounds round (line text) rest
    | .read _ last, .error fault => (last (some fault), rest)

def run : Program α → World → α × World
  | done a, w => (a, w)
  | fetch r next, w =>
    let w' := { w with replies := w.replies.tail, requests := w.requests ++ [r] }
    (next (w.replies.headD Http.Reply.unreachable r)).run w'
  | loop s round next, w =>
    let (result, input) := rounds round s w.input
    (next result).run { w with input }
  | print line next, w => next.run { w with output := w.output ++ [line] }
  | readText path next, w => (next (w.files.read path)).run w
  | writeText path text next, w =>
    match w.files.write path text.toUTF8 with
    | .ok files => (next none).run { w with files }
    | .error fault => (next (some fault)).run w
  | rename source target next, w =>
    match w.files.rename source target with
    | .ok files => (next none).run { w with files }
    | .error fault => (next (some fault)).run w

end Program
end DatasetSearch
