import GuardAlgebra.Text.Ranges
import GuardAlgebra.Value.Truth

/-!
Options of building settings: which file of assignments is read, and how the names and texts of the
environment and of that file stand for settings. An option is given among the arguments, by a name
that begins with an underscore.
-/
namespace GuardAlgebra.Settings

structure Options where
  /-- Whether the file of assignments is read. -/
  readsFile : Bool
  /-- Whether names must agree in the case of their letters. -/
  caseSensitive : Bool
  /-- What stands in front of the name of every setting outside the arguments. -/
  lead : String
  /-- Whether empty texts count as not given. -/
  ignoresEmpty : Bool
  /-- The text that stands for nothing. -/
  noneText : Option Text
  deriving DecidableEq, Repr

namespace Options

def standard : Options := ⟨true, true, "", false, none⟩

/-- Options that bear on other kinds of settings than there are, or on the command line, which is not
read unless an option asks for it. -/
def idle : List String :=
  ["_nested_model_default_partial_update", "_env_nested_delimiter", "_env_parse_enums",
    "_cli_prog_name", "_cli_parse_none_str", "_cli_hide_none_type", "_cli_avoid_json",
    "_cli_enforce_required", "_cli_use_class_docs_for_groups", "_cli_exit_on_error", "_cli_prefix",
    "_cli_flag_prefix_char", "_cli_implicit_flags", "_cli_ignore_unknown_args", "_cli_kebab_case",
    "_cli_shortcuts"]

/-- Options that add a source, or change how one is read, of which nothing is said here. -/
def foreign : List String :=
  ["_cli_parse_args", "_cli_settings_source", "_secrets_dir", "_env_file_encoding",
    "_env_nested_max_split"]

def isOption (name : String) : Bool :=
  ["_env_file", "_case_sensitive", "_env_prefix", "_env_ignore_empty",
    "_env_parse_none_str"].contains name || idle.contains name

/-- Names of the file of assignments. -/
def isUsualFile : Value → Bool
  | .str path => path = ".env" || path = "./.env"
  | _ => false

/-- Whether a choice of files has the usual one among them. -/
def choosesFile : Value → Except Fault Bool
  | .none => .ok false
  | .str path => .ok (isUsualFile (.str path))
  | .list _ files | .tuple _ files => .ok (files.any isUsualFile)
  | other => .error (.notIterable other.typeName)

/-- A switch as it was before, where nothing is given. -/
def switch (before : Bool) : Value → Except Fault Bool
  | .none => .ok before
  | given => given.truth

/-- Takes one argument into account, if it is an option. -/
def take (options : Options) (name : String) (given : Value) : Except Fault Options :=
  match name with
  | "_env_file" => do return { options with readsFile := ← choosesFile given }
  | "_case_sensitive" => do
      return { options with caseSensitive := ← switch options.caseSensitive given }
  | "_env_prefix" =>
      match given with
      | .none => .ok options
      | .str (.whole lead) => .ok { options with lead }
      | .str _ => .error (.unfollowed name)
      | other => .error (.unsupportedOperands "+" other.typeName "str")
  | "_env_ignore_empty" => do
      return { options with ignoresEmpty := ← switch options.ignoresEmpty given }
  | "_env_parse_none_str" =>
      match given with
      | .str text => .ok { options with noneText := some text }
      | _ => .ok options
  | name => if foreign.contains name then .error (.unfollowed name) else .ok options

def ofArguments (arguments : List (String × Value)) : Except Fault Options :=
  arguments.foldlM (fun options (name, given) => options.take name given) standard

/-- A name as it is compared. -/
def fold (options : Options) (name : String) : String :=
  if options.caseSensitive then name else String.ofList (name.toList.map Text.lowerAscii)

/-- The name by which a setting is given outside the arguments. -/
def outerName (options : Options) (name : String) : String := options.fold (options.lead ++ name)

/-- Texts under the names by which they are compared. -/
def entriesOf (options : Options) (texts : List (String × Text)) : List (String × Text) :=
  (texts.filter fun entry => !(options.ignoresEmpty && entry.2 = .whole "")).map fun entry =>
    (options.fold entry.1, entry.2)

/-- What a text stands for. -/
def meaning (options : Options) (text : Text) : Value :=
  if options.noneText = some text then .none else .str text

end Options

end GuardAlgebra.Settings
