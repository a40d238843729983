import AnswerSetLearning.Command.Check
import AnswerSetLearning.Command.Convert
import AnswerSetLearning.Proofs.Command.Escaping

namespace AnswerSetLearning

open Markup

theorem carries_repr (n : Nat) : Carries (Nat.repr n) [] := by
  refine carries_of_all (List.all_eq_true.2 fun c hc => ?_)
  rw [Nat.repr_eq_ofList_toDigits, String.toList_ofList] at hc
  have hdigit := Nat.isDigit_of_mem_toDigits (by decide) (by decide) hc
  rw [Bool.and_eq_true, bne_iff_ne, bne_iff_ne]
  constructor <;> rintro rfl <;> exact absurd hdigit (by decide)

theorem carries_intText (n : Int) : Carries (intText n) [] := by
  cases n with
  | ofNat n => exact carries_repr n
  | negSucc n => exact Carries.append (carries_of_all (by decide)) (carries_repr (n + 1))

theorem carries_code (f : Failure) : Carries f.code [] := by
  refine carries_of_all ?_
  fun_cases Failure.code f <;> decide

theorem carries_condition (c : Condition) : Carries c.text [] := by
  refine carries_of_all ?_
  cases c <;> decide

theorem wellFormed_report (f : Failure) :
    WellFormed ("[red]Błąd[/red] [dim](" ++ f.code ++ ")[/dim]: " ++ escape f.message) := by
  have h₁ : Carries "[red]Błąd[/red] [dim](" ["red".toList, "/red".toList, "dim".toList] :=
    ⟨rfl, rfl⟩
  have h₂ : Carries ")[/dim]: " ["/dim".toList] := ⟨rfl, rfl⟩
  exact IsBalanced.wellFormed_append_escape
    (.intro ["red", "dim"] (by decide) ((h₁.append (carries_code f)).append h₂)) _

theorem plain_missingTask_eq_error_iff {f : Markup.Fault} (name : String) :
    plain ("[red]Brak pliku zadania:[/red] " ++ name) = .error f ↔ plain name = .error f :=
  IsBalanced.plain_append_eq_error_iff (.intro ["red"] (by decide) ⟨rfl, rfl⟩) name

theorem wellFormed_failReading (message : String) :
    WellFormed ("[red]Błąd odczytu zadania:[/red] " ++ escape message) :=
  IsBalanced.wellFormed_append_escape (.intro ["red"] (by decide) ⟨rfl, rfl⟩) _

theorem wellFormed_saveFailure (message : String) :
    WellFormed ("[red]Błąd zapisu programu:[/red] " ++ escape message) :=
  IsBalanced.wellFormed_append_escape (.intro ["red"] (by decide) ⟨rfl, rfl⟩) _

theorem wellFormed_warning (message : String) :
    WellFormed ("[yellow]Ostrzeżenie:[/yellow] " ++ escape message) :=
  IsBalanced.wellFormed_append_escape (.intro ["yellow"] (by decide) ⟨rfl, rfl⟩) _

theorem wellFormed_interrupted : WellFormed "[yellow]Przerwano (Ctrl-C).[/yellow]" :=
  IsBalanced.wellFormed (.intro ["yellow"] (by decide) ⟨rfl, rfl⟩)

theorem wellFormed_conflict (c : Conflict) :
    WellFormed ("[red]NIEZGODNE[/red] — warunek [bold](" ++ c.condition.text ++
      ")[/bold], przykłady [cyan]" ++ intText (c.first + 1) ++ "[/cyan] i [cyan]" ++
      intText (c.second + 1) ++ "[/cyan]") := by
  have h₁ : Carries "[red]NIEZGODNE[/red] — warunek [bold]("
      ["red".toList, "/red".toList, "bold".toList] := ⟨rfl, rfl⟩
  have h₂ : Carries ")[/bold], przykłady [cyan]" ["/bold".toList, "cyan".toList] := ⟨rfl, rfl⟩
  have h₃ : Carries "[/cyan] i [cyan]" ["/cyan".toList, "cyan".toList] := ⟨rfl, rfl⟩
  have h₄ : Carries "[/cyan]" ["/cyan".toList] := ⟨rfl, rfl⟩
  exact IsBalanced.wellFormed (.intro ["red", "bold", "cyan", "cyan"] (by decide)
    ((((((h₁.append (carries_condition _)).append h₂).append (carries_intText _)).append h₃).append
      (carries_intText _)).append h₄))

theorem wellFormed_loaded (rules examples : Nat) :
    WellFormed ("Wczytano zadanie: " ++ Nat.repr rules ++ " reguł tła, " ++ Nat.repr examples ++
      " przykładów") := by
  have h₁ : Carries "Wczytano zadanie: " [] := ⟨rfl, rfl⟩
  have h₂ : Carries " reguł tła, " [] := ⟨rfl, rfl⟩
  have h₃ : Carries " przykładów" [] := ⟨rfl, rfl⟩
  exact IsBalanced.wellFormed (.intro [] (by simp)
    ((((h₁.append (carries_repr _)).append h₂).append (carries_repr _)).append h₃))

theorem wellFormed_compatible (pairs : Nat) :
    WellFormed ("[green]Zgodne[/green] — sprawdzono " ++ Nat.repr pairs ++ " par przykładów") := by
  have h₁ : Carries "[green]Zgodne[/green] — sprawdzono " ["green".toList, "/green".toList] :=
    ⟨rfl, rfl⟩
  have h₂ : Carries " par przykładów" [] := ⟨rfl, rfl⟩
  exact IsBalanced.wellFormed
    (.intro ["green"] (by decide) ((h₁.append (carries_repr _)).append h₂))

theorem wellFormed_noUniverse : WellFormed "[yellow]Wszechświat jest pusty.[/yellow]" :=
  IsBalanced.wellFormed (.intro ["yellow"] (by decide) ⟨rfl, rfl⟩)

theorem wellFormed_universe (size predicates : Int) :
    WellFormed ("  [dim]" ++ intText size ++ " literałów w " ++ intText predicates ++
      " predykatach[/dim]") := by
  have h₁ : Carries "  [dim]" ["dim".toList] := ⟨rfl, rfl⟩
  have h₂ : Carries " literałów w " [] := ⟨rfl, rfl⟩
  have h₃ : Carries " predykatach[/dim]" ["/dim".toList] := ⟨rfl, rfl⟩
  exact IsBalanced.wellFormed (.intro ["dim"] (by decide)
    ((((h₁.append (carries_intText _)).append h₂).append (carries_intText _)).append h₃))

theorem wellFormed_parsing : WellFormed "[dim]Parsowanie...[/dim]" :=
  IsBalanced.wellFormed (.intro ["dim"] (by decide) ⟨rfl, rfl⟩)

theorem wellFormed_converting : WellFormed "[dim]Konwersja...[/dim]" :=
  IsBalanced.wellFormed (.intro ["dim"] (by decide) ⟨rfl, rfl⟩)

theorem wellFormed_examples (positives negatives : Nat) :
    WellFormed ("Przykłady: [green]" ++ Nat.repr positives ++ " pozytywnych[/green], [red]" ++
      Nat.repr negatives ++ " negatywnych[/red]") := by
  have h₁ : Carries "Przykłady: [green]" ["green".toList] := ⟨rfl, rfl⟩
  have h₂ : Carries " pozytywnych[/green], [red]" ["/green".toList, "red".toList] := ⟨rfl, rfl⟩
  have h₃ : Carries " negatywnych[/red]" ["/red".toList] := ⟨rfl, rfl⟩
  exact IsBalanced.wellFormed (.intro ["green", "red"] (by decide)
    ((((h₁.append (carries_repr _)).append h₂).append (carries_repr _)).append h₃))

end AnswerSetLearning
