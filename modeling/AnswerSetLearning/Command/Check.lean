import AnswerSetLearning.Command.Report

namespace AnswerSetLearning

open Step

def sayConflict (c : Conflict) : Step Unit :=
  say ("[red]NIEZGODNE[/red] — warunek [bold](" ++ c.condition.text ++
    ")[/bold], przykłady [cyan]" ++ intText (c.first + 1) ++ "[/cyan] i [cyan]" ++
    intText (c.second + 1) ++ "[/cyan]")

def reportCheck (t : Task) : Step Unit :=
  match checkWithSolver t with
  | .error (.conflict c) => do
    sayConflict c
    stop (.exit 1)
  | .error (.query e) => fail (.ofQuery e)
  | .ok _ =>
    let count := t.examples.length
    say ("[green]Zgodne[/green] — sprawdzono " ++ Nat.repr (count * (count - 1) / 2) ++
      " par przykładów")

def check (w : World) (input : Option String) : Step Unit := do
  let t ← readTask w input
  say ("Wczytano zadanie: " ++ Nat.repr t.background.length ++ " reguł tła, " ++
    Nat.repr t.examples.length ++ " przykładów")
  awaitResult w
  reportCheck t

end AnswerSetLearning
