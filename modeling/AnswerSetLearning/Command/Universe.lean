import AnswerSetLearning.Command.Report

namespace AnswerSetLearning

open Step

/-- The literals of each predicate; the predicates in order, the literals as they come. -/
def byPredicate (ls : List Literal) : List (String × List Literal) :=
  (SortedSet.ofList (ls.map Literal.predicate)).items.map fun p =>
    (p, ls.filter fun l => l.predicate = p)

def universeTable (ls : List Literal) : Console.Table where
  title := none
  header := ("PREDYKAT", "LITERAŁY")
  rightAligned := false
  rows := (byPredicate ls).map fun (p, ls) => (p, joinWith "  " (ls.map Literal.text))

def reportUniverse (t : Task) : Step Unit :=
  match computeUniverse t with
  | (.error e, _) => fail (.ofQuery e)
  | (.ok univ, registry) =>
    let stats := universeStats univ registry
    if stats.size = 0 then say "[yellow]Wszechświat jest pusty.[/yellow]"
    else do
      printLines (universeTable (registry.getMany univ.items)).toLines
      say ("  [dim]" ++ intText stats.size ++ " literałów w " ++ intText stats.predicates ++
        " predykatach[/dim]")

def showUniverse (w : World) (input : Option String) : Step Unit := do
  let t ← readTask w input
  awaitResult w
  reportUniverse t

end AnswerSetLearning
