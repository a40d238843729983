import AnswerSetLearning.Command.Path
import AnswerSetLearning.Command.Words

namespace AnswerSetLearning

abbrev Environment := String → Option String

structure Settings where
  ilasp : String
  ilaspArgs : List String
  template : Option Path
  deriving DecidableEq

def readSettings (env : Environment) : Except WordFault Settings :=
  (splitWords ((env "ILNLP_ILASP_ARGS").getD "")).map fun args =>
    { ilasp := (env "ILNLP_ILASP").getD "ILASP"
      ilaspArgs := args
      template := (env "ILNLP_TEMPLATE").bind Path.ofText? }

end AnswerSetLearning
