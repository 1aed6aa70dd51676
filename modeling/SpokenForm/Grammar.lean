import SpokenForm.Files.Store
import SpokenForm.Lattice
import SpokenForm.Text.Quoted

/-! Grammars: what they are asked, what they answer, how a set of them is named, and how they fail. -/
namespace SpokenForm

/-- Spoken forms for written ones, or the reverse. -/
inductive Direction where
  | normalize | inverse
deriving DecidableEq, Repr

/-- The name of a direction in paths of files. -/
def Direction.component : Direction → String
  | normalize => "tn"
  | inverse => "itn"

def Direction.displayName : Direction → String
  | normalize => "文本规范化"
  | inverse => "逆文本规范化"

/-- How the letters of an input are cased. -/
inductive InputCase where
  | cased | lowerCased
deriving DecidableEq, Repr

def InputCase.name : InputCase → String
  | cased => "cased"
  | lowerCased => "lower_cased"

def InputCase.ofName? (name : Text) : Option InputCase :=
  if name = "cased".toList then some .cased
  else if name = "lower_cased".toList then some .lowerCased
  else none

/-- The steps of a normalization that are done by grammars. -/
inductive Stage where
  | tokenize | verbalize | postProcess
deriving DecidableEq, Repr

def Stage.name : Stage → String
  | tokenize => "tokenize"
  | verbalize => "verbalize"
  | postProcess => "post_process"

/-- What an engine was doing when it failed. -/
inductive EngineContext where
  | read | readText | write | compose | removeEmpty | determinize | shortestPaths
deriving DecidableEq, Repr

def EngineContext.name : EngineContext → String
  | read => "read"
  | readText => "read_text"
  | write => "write"
  | compose => "compose"
  | removeEmpty => "rm_epsilon"
  | determinize => "determinize"
  | shortestPaths => "shortest_path"

/-- Why a grammar cannot be had, or has no answer. -/
inductive GrammarError where
  | unsupportedLanguage (language : Text)
  | missingGrammar (path : FilePath)
  | io (path : FilePath) (cause : FileError)
  | engine (context : EngineContext) (detail : Text)
  | invalidOutput
  | invalidWhitelist (path : FilePath) (line : Nat)
deriving DecidableEq, Repr

def GrammarError.message : GrammarError → String
  | unsupportedLanguage language => "不支持的语言: " ++ String.ofList language
  | missingGrammar path => "缺少语法文件: " ++ String.ofList path
  | io path cause => "读写语法文件 " ++ String.ofList path ++ " 失败: " ++ cause.message
  | engine context detail =>
    "FST 引擎在 " ++ context.name ++ " 阶段出错: " ++ String.ofList detail
  | invalidOutput => "FST 输出不是合法的 UTF-8"
  | invalidWhitelist path line =>
    "白名单 " ++ String.ofList path ++ " 第 " ++ toString line ++
      " 行格式错误，应为 `书面形式<TAB>口语形式`"

/-- A grammar is asked for the best outputs of an input, at most a given number of them. -/
abbrev Grammar (W : Type) := Text → Nat → Except GrammarError (Lattice W)

/-- The grammars of one language and direction. Only a normalization has use for a post-processor. -/
structure GrammarSet where
  tagger : Grammar Weight
  verbalizer : Grammar Weight
  postProcessor? : Option (Grammar Weight)

def GrammarSet.description (grammars : GrammarSet) : String :=
  "GrammarSet \x7b post_processor: " ++ toString grammars.postProcessor?.isSome ++ ", .. \x7d"

/-- What a set of grammars is chosen by. -/
structure GrammarKey where
  language : Text
  direction : Direction
  inputCase : InputCase
  deterministic : Bool
  whitelist? : Option FilePath
deriving DecidableEq, Repr

/-- The parts of a file name for a compiled grammar; a whitelist adds its own name. -/
def GrammarKey.nameParts (key : GrammarKey) (stage : Stage) : List Text :=
  [key.language, key.direction.component.toList, (toString key.deterministic).toList,
    key.inputCase.name.toList] ++ (key.whitelist?.bind FilePath.fileStem?).toList ++
    [stage.name.toList]

def GrammarKey.cacheFileName (key : GrammarKey) (stage : Stage) : Text :=
  Text.joinBy ['_'] (key.nameParts stage) ++ ".fst".toList

end SpokenForm
