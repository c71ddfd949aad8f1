import DatasetSearch.Program

/-! Running programs.

A program that is followed by another runs first and leaves its world to the other (`run_bind`). A
loop reads as many lines as its rounds ask for (`rounds_stop`, `rounds_line`); where there is none, or
it cannot be read, the loop is over (`rounds_nil`, `rounds_fault`). A program in which no file is
written or renamed leaves all files as they are (`KeepsFiles.run`). -/
namespace DatasetSearch.Program
variable {α β : Type}

theorem run_bind (p : Program α) (f : α → Program β) (w : World) :
    (p.bind f).run w = (f (p.run w).1).run (p.run w).2 := by
  induction p generalizing w with
  | done a => rfl
  | fetch r next ih => exact ih _ _
  | loop s round next ih => exact ih _ _
  | print line next ih => exact ih _
  | readText path next ih => exact ih _ _
  | writeText path text next ih =>
    simp only [bind, run]
    split <;> exact ih _ _
  | rename source target next ih =>
    simp only [bind, run]
    split <;> exact ih _ _

/-! ### Loops -/

section
variable {σ : Type} {round : σ → Round σ β} {s : σ} {result : β} {line : String → σ}
  {last : Option Files.Fault → β}

theorem rounds_stop (h : round s = .stop result) (unread : List (Except Files.Fault String)) :
    rounds round s unread = (result, unread) := by
  cases unread <;> simp only [rounds, h]

theorem rounds_nil (h : round s = .read line last) : rounds round s [] = (last none, []) := by
  simp only [rounds, h]

theorem rounds_line (h : round s = .read line last) (text : String)
    (rest : List (Except Files.Fault String)) :
    rounds round s (.ok text :: rest) = rounds round (line text) rest := by
  simp only [rounds, h]

theorem rounds_fault (h : round s = .read line last) (fault : Files.Fault)
    (rest : List (Except Files.Fault String)) :
    rounds round s (.error fault :: rest) = (last (some fault), rest) := by
  simp only [rounds, h]

end

/-! ### Files -/

/-- No file is written or renamed, whatever the world answers. -/
def KeepsFiles : Program α → Prop
  | done _ => True
  | fetch _ next => ∀ reply, (next reply).KeepsFiles
  | loop _ _ next => ∀ result, (next result).KeepsFiles
  | print _ next => next.KeepsFiles
  | readText _ next => ∀ answer, (next answer).KeepsFiles
  | writeText _ _ _ => False
  | rename _ _ _ => False

theorem KeepsFiles.bind {p : Program α} {f : α → Program β} (hp : p.KeepsFiles)
    (hf : ∀ a, (f a).KeepsFiles) : (p.bind f).KeepsFiles := by
  induction p with
  | done a => exact hf a
  | fetch r next ih => exact fun reply => ih reply (hp reply)
  | loop s round next ih => exact fun result => ih result (hp result)
  | print line next ih => exact ih hp
  | readText path next ih => exact fun answer => ih answer (hp answer)
  | writeText path text next ih => exact hp.elim
  | rename source target next ih => exact hp.elim

theorem KeepsFiles.run {p : Program α} (h : p.KeepsFiles) (w : World) :
    (p.run w).2.files = w.files := by
  induction p generalizing w with
  | done a => rfl
  | fetch r next ih => exact ih _ (h _) _
  | loop s round next ih => exact ih _ (h _) _
  | print line next ih => exact ih h _
  | readText path next ih => exact ih _ (h _) w
  | writeText path text next ih => exact h.elim
  | rename source target next ih => exact h.elim

end DatasetSearch.Program
