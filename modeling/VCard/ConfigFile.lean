import VCard.Settings
import VCard.Toml
import VCard.Text.Blank
/-! Settings read from a configuration file in TOML.

The top-level keys of the file name settings (see `Settings.ofFields`); other
keys and tables are ignored. A file that is not valid TOML, or whose values do
not coerce, gives the default settings, as a broken configuration must not stop
the program; only a number too large to be a count is an error. No file at all
gives the defaults too. The file is read as text, so its line ends are LF
whatever system wrote it.

Settings coerce loose values (`Json.Value`). A TOML string, number or boolean is
the loose value of the same kind; a date, time, array or table reaches the
settings as its plain text, the text a setting that reads text sees: no setting
accepts one of them as anything else. -/
namespace VCard

namespace Settings

/-- The loose value a setting sees for a TOML value. -/
def looseOf : Toml.Value → Json.Value
  | .bool b => .bool b
  | .int n => .int n
  | .float x => .float x
  | .str s => .str s
  | v => .str v.plain

/-- The settings of a configuration file's text, or the defaults when there is
no file. -/
def load (text : Option String) : Except Error Settings :=
  match text with
  | none => .ok {}
  | some t =>
    match Toml.parse (String.ofList (Text.universalLineEnds t.toList)) with
    | .error _ => .ok {}
    | .ok fields =>
      match ofFields (fields.map fun (k, v) => (k, looseOf v)) with
      | .ok s => .ok s
      | .error e => if e.category == .overflow then .error e else .ok {}

end Settings

end VCard
