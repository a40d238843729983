import AnswerSetLearning.Proofs.Unambiguity
import AnswerSetLearning.Template.Render

namespace AnswerSetLearning

namespace Template

section Chunks

def forTag (x : String) (source : List Token) : Chunk :=
  .tag (.name "for" :: .name x :: .name "in" :: (source ++ [.stop]))

def endTag : Chunk := .tag [.name "endfor", .stop]

def printTag (source : List Token) : Chunk := .print (source ++ [.stop])

def memberTokens (x field : String) : List Token := [.name x, .op ".", .name field]

def joinTokens : List Token := [.op "|", .name "join", .op "(", .text ", ", .op ")"]

def wordChunks (words before after : String) : List Chunk :=
  [forTag "lit" (memberTokens "search_space" words), .text before, printTag [.name "lit"],
    .text (after ++ "\n"), endTag]

def exampleChunks (sign list : String) : List Chunk :=
  [forTag "e" [.name list], .text ("#" ++ sign ++ "(\x7b"),
    printTag (memberTokens "e" "incl" ++ joinTokens), .text "\x7d, \x7b",
    printTag (memberTokens "e" "excl" ++ joinTokens), .text "\x7d, \x7b",
    forTag "c" (memberTokens "e" "ctx"), .text " ", printTag [.name "c"], .text ".", endTag,
    .text " \x7d).\n", endTag]

def defaultChunks : List Chunk :=
  [.text "% ===== tło =====\n", forTag "rule" [.name "background"], printTag [.name "rule"],
    .text "\n", endTag, .text "\n% ===== przestrzeń poszukiwań =====\n"] ++
  wordChunks "head" "#modeh(" ")." ++
  wordChunks "positive_body" "#modeb(" ", (positive))." ++
  wordChunks "general_body" "#modeb(" ")." ++
  .text "\n% ===== przykłady pozytywne =====\n" :: exampleChunks "pos" "pos_examples" ++
  .text "\n% ===== przykłady negatywne =====\n" :: exampleChunks "neg" "neg_examples"

theorem chunks_defaultTemplate : chunks defaultTemplate = defaultChunks := by
  have hchars : defaultTemplate.toList = defaultLines.flatMap (·.toList ++ ['\n']) :=
    toList_unlines defaultLines
  rw [chunks, hchars]
  -- short texts only: reading off the characters of a text takes long for a long one
  simp only [defaultLines, exampleLine, String.toList_append, List.flatMap_cons]
  decide +kernel

end Chunks

section Nodes

def wordLoop (words before after : String) : Node :=
  .loop "lit" (.item (.name "search_space") (.text words))
    [.text before, .print (.name "lit"), .text (after ++ "\n")] []

def printJoined (field : String) : Node :=
  .print (.filtered (.item (.name "e") (.text field)) "join" [(none, .constant (.text ", "))])

def contextLoop : Node :=
  .loop "c" (.item (.name "e") (.text "ctx")) [.text " ", .print (.name "c"), .text "."] []

def exampleLoop (sign list : String) : Node :=
  .loop "e" (.name list)
    [.text ("#" ++ sign ++ "(\x7b"), printJoined "incl", .text "\x7d, \x7b", printJoined "excl",
      .text "\x7d, \x7b", contextLoop, .text " \x7d).\n"] []

def defaultNodes : List Node :=
  [.text "% ===== tło =====\n",
    .loop "rule" (.name "background") [.print (.name "rule"), .text "\n"] [],
    .text "\n% ===== przestrzeń poszukiwań =====\n",
    wordLoop "head" "#modeh(" ").",
    wordLoop "positive_body" "#modeb(" ", (positive)).",
    wordLoop "general_body" "#modeb(" ").",
    .text "\n% ===== przykłady pozytywne =====\n",
    exampleLoop "pos" "pos_examples",
    .text "\n% ===== przykłady negatywne =====\n",
    exampleLoop "neg" "neg_examples"]

theorem parseChecked_defaultTemplate : parseChecked defaultTemplate = .ok defaultNodes := by
  have hparse : parseChunks [] [] defaultChunks = .ok defaultNodes := rfl
  have hdepth : ¬ maxDepth < depthAmong defaultNodes := by decide
  have hproblems : problemAmong? defaultNodes = none := rfl
  rw [parseChecked, parse, chunks_defaultTemplate, hparse]
  simp only [bind, Except.bind, if_neg hdepth, hproblems]
  rfl

end Nodes

end Template

end AnswerSetLearning
