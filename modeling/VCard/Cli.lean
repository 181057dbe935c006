import VCard.ConfigFile
import VCard.HCard.Read
import VCard.JCard.Read
import VCard.JCard.Write
import VCard.Json.Model
import VCard.Json.Write
import VCard.Phone.Card
import VCard.Validation
import VCard.Vcf.Read
import VCard.Vcf.Write
import VCard.XCard.Read
import VCard.XCard.Write
/-! The command line: its arguments, and what each command does with the files
it is given.

* `convert INPUT` reads contacts (the format from the file's ending: `.xml`
  xCard, `.json` jCard, `.html` or `.htm` hCard, anything else vCard) and
  writes them as vCard (`--version`), xCard or jCard (`--to`), optionally
  rewriting telephone numbers as `tel:` URIs (`--tel-uri`, `--region`);
* `validate INPUT` lists the problems of each card for a version, and fails
  when there is one;
* `inspect INPUT` lists the properties of each card;
* `init-config [PATH]` writes the default configuration file.

Every command but `init-config` takes a configuration file (`--config`). The
commands are pure: they take the texts of the files and give what to print,
what to write and the exit code; reading and writing files is left to `main`. -/
namespace VCard

namespace Cli

/-- The formats contacts are written in. -/
inductive Format where
  | vcard
  | xcard
  | jcard
  deriving DecidableEq, Repr

/-- The options of `convert`. -/
structure ConvertOptions where
  input : String
  format : Format := .vcard
  version : Option String := none
  output : Option String := none
  telUri : Bool := false
  region : Option String := none
  prodid : Bool := false
  pretty : Bool := false
  config : Option String := none
  verbose : Bool := false
  deriving Repr

/-- A command line, read. -/
inductive Command where
  | convert (o : ConvertOptions)
  | validate (input : String) (version config : Option String)
  | inspect (input : String) (config : Option String)
  | initConfig (path : String)
  | help
  deriving Repr

def usage : String :=
  "Usage: vcard-scribe COMMAND [ARGS]...\n\n" ++
  "vcard-scribe: read, validate and convert vCard, xCard, jCard and hCard data.\n\n" ++
  "Commands:\n" ++
  "  convert      Convert contacts between vCard versions and the xCard / jCard formats.\n" ++
  "  validate     Check each vCard against the rules of a vCard version.\n" ++
  "  inspect      Show the properties of every vCard in a file.\n" ++
  "  init-config  Write a settings file with the default values.\n"

/-- Reads the options of `convert`. -/
def convertOptions : Nat → List String → ConvertOptions → Except String ConvertOptions
  | 0, _, o => .ok o
  | _, [], o => if o.input.isEmpty then .error "Missing argument 'INPUT'." else .ok o
  | fuel + 1, arg :: rest, o =>
    let value (k : String → ConvertOptions) : Except String ConvertOptions :=
      match rest with
      | v :: more => convertOptions fuel more (k v)
      | [] => .error ("Option '" ++ arg ++ "' requires an argument.")
    if arg == "--to" || arg == "-t" then
      match rest with
      | "vcard" :: more => convertOptions fuel more { o with format := .vcard }
      | "xcard" :: more => convertOptions fuel more { o with format := .xcard }
      | "jcard" :: more => convertOptions fuel more { o with format := .jcard }
      | v :: _ => .error ("Invalid value for '--to': '" ++ v ++ "' is not one of 'vcard', 'xcard', 'jcard'.")
      | [] => .error "Option '--to' requires an argument."
    else if arg == "--version" || arg == "-V" then value fun v => { o with version := some v }
    else if arg == "--output" || arg == "-o" then value fun v => { o with output := some v }
    else if arg == "--region" || arg == "-r" then value fun v => { o with region := some v }
    else if arg == "--config" || arg == "-c" then value fun v => { o with config := some v }
    else if arg == "--tel-uri" then convertOptions fuel rest { o with telUri := true }
    else if arg == "--prodid" then convertOptions fuel rest { o with prodid := true }
    else if arg == "--pretty" then convertOptions fuel rest { o with pretty := true }
    else if arg == "--verbose" || arg == "-v" then convertOptions fuel rest { o with verbose := true }
    else if arg.startsWith "-" then .error ("No such option: " ++ arg)
    else if o.input.isEmpty then convertOptions fuel rest { o with input := arg }
    else .error ("Got unexpected extra argument (" ++ arg ++ ")")

/-- Reads the input and the `--version` and `--config` options of the other
commands. -/
def commonOptions : Nat → List String → String × Option String × Option String →
    Except String (String × Option String × Option String)
  | 0, _, r => .ok r
  | _, [], r => if r.1.isEmpty then .error "Missing argument 'INPUT'." else .ok r
  | fuel + 1, arg :: rest, (input, version, config) =>
    if arg == "--version" || arg == "-V" || arg == "--config" || arg == "-c" then
      match rest with
      | v :: more =>
        if arg == "--version" || arg == "-V" then commonOptions fuel more (input, some v, config)
        else commonOptions fuel more (input, version, some v)
      | [] => .error ("Option '" ++ arg ++ "' requires an argument.")
    else if arg.startsWith "-" then .error ("No such option: " ++ arg)
    else if input.isEmpty then commonOptions fuel rest (arg, version, config)
    else .error ("Got unexpected extra argument (" ++ arg ++ ")")

/-- Reads a command line. -/
def parseArgs : List String → Except String Command
  | [] => .ok .help
  | "--help" :: _ => .ok .help
  | "convert" :: rest => (convertOptions rest.length rest { input := "" }).map .convert
  | "validate" :: rest =>
    (commonOptions rest.length rest ("", none, none)).map fun (i, v, c) => .validate i v c
  | "inspect" :: rest =>
    (commonOptions rest.length rest ("", none, none)).bind fun (i, v, c) =>
      if v.isSome then .error "No such option: --version" else .ok (.inspect i c)
  | "init-config" :: rest =>
    match rest with
    | [] => .ok (.initConfig "vcard-scribe.toml")
    | [p] => .ok (.initConfig p)
    | _ :: extra :: _ => .error ("Got unexpected extra argument (" ++ extra ++ ")")
  | c :: _ => .error ("No such command '" ++ c ++ "'.")

/-! ### Running commands -/

/-- What a command asks for: text for standard output and standard error,
files to write, and the exit code. -/
structure Outcome where
  out : String := ""
  err : String := ""
  writes : List (String × String) := []
  code : UInt32 := 0

/-- The ending of a file name, lowered. -/
def ending (path : String) : String :=
  let name := (path.splitOn "/").getLastD path
  let cs := name.toList
  match cs.reverse.findIdx? (· == '.') with
  | some j =>
    let i := cs.length - 1 - j
    if 0 < i && i < cs.length - 1 then Text.lower (String.ofList (cs.drop i)) else ""
  | none => ""

/-- Reads the contacts of a file's text, the format from its name. -/
def readInput (path text : String) (settings : Settings) : Except Error (List Card × List Warning) :=
  match ending path with
  | ".xml" => XCard.read defaultIndex {} text
  | ".json" => (JCard.read defaultIndex {} text).map fun (cs, s) => (cs, s.warnings)
  | ".html" | ".htm" => .ok (HCard.read { settings } text)
  | _ =>
    let (r, s) := (ExceptT.run (Vcf.read defaultIndex settings text)).run {}
    r.map (·, s.warnings)

/-- A table of warnings under a title. -/
def warningsText (ws : List Warning) (title : String) : String :=
  if ws.isEmpty then ""
  else
    title ++ "  " ++ toString ws.length ++ "\n" ++
      String.join (ws.map fun w =>
        "  " ++ (w.line.map toString).getD "" ++ "\t" ++ w.property.getD "" ++ "\t" ++ w.message ++ "\n")

/-- The name a card is shown by. -/
def label (c : Card) : String := c.formattedName.getD "Unnamed"

/-- The settings of a configuration file's text, with what to say when it is
broken beyond use. -/
def settingsOf (config : Option String) : Except Error Settings := Settings.load config

/-- The version a command line names, or the settings' default. -/
def versionOf (text : Option String) (settings : Settings) : Except String Version :=
  match text with
  | none => .ok settings.defaultVersion
  | some t =>
    match Version.find? t with
    | some v => .ok v
    | none => .error ("Unknown vCard version " ++ Text.quote t ++ " (use 2.1, 3.0 or 4.0).")

/-- Runs `convert` on the text of the input and of the configuration file. -/
def convert (o : ConvertOptions) (input : String) (config : Option String) : Outcome :=
  match settingsOf config with
  | .error e => { err := e.message ++ "\n", code := 1 }
  | .ok settings =>
    let settings := if o.prodid then { settings with addProdid := true } else settings
    match versionOf o.version settings with
    | .error m => { err := m ++ "\n", code := 2 }
    | .ok version =>
      match readInput o.input input settings with
      | .error e => { err := "Could not read " ++ o.input ++ ": " ++ e.message ++ "\n", code := 2 }
      | .ok (cards, readWarnings) =>
        if cards.isEmpty then { err := "No vCards found in " ++ o.input ++ ".\n", code := 2 }
        else
          let region := o.region.getD settings.defaultRegion
          let cards := if o.telUri then cards.map fun c => (Phone.telephonesToUris c region).1 else cards
          let written := match o.format with
            | .xcard => (XCard.write defaultIndex cards settings.xmlIndent).map fun r => (r, "xCard")
            | .jcard => (JCard.write defaultIndex cards (o.pretty || settings.prettyJson)).map fun r => (r, "jCard")
            | .vcard => (Vcf.write { version, settings } cards).map fun r => (r, "vCard " ++ version.text)
          match written with
          | .error e => { err := e.message ++ "\n", code := 1 }
          | .ok ((text, writeWarnings), target) =>
            let report := warningsText readWarnings "READ WARNINGS" ++ warningsText writeWarnings "WRITE WARNINGS"
            match o.output with
            | none => { out := if text.endsWith "\n" then text else text ++ "\n", err := report }
            | some path =>
              let count := (cards.map (·.properties.length)).foldl (· + ·) 0
              let summary := "CONVERSION SUMMARY\n  " ++ toString cards.length ++ " vCards, " ++
                toString count ++ " properties, " ++ toString (readWarnings.length + writeWarnings.length) ++
                " warnings\n  Written as " ++ target ++ "\n  " ++ path ++ "\n"
              { out := report ++ summary, writes := [(path, text)] }

/-- Runs `validate`. -/
def validate (inputPath : String) (version : Option String) (input : String) (config : Option String) :
    Outcome :=
  match settingsOf config with
  | .error e => { err := e.message ++ "\n", code := 1 }
  | .ok settings =>
    match readInput inputPath input settings with
    | .error e => { err := "Could not read " ++ inputPath ++ ": " ++ e.message ++ "\n", code := 2 }
    | .ok (cards, readWarnings) =>
      let target : Except String (Option Version) := match version with
        | some _ => (versionOf version settings).map some
        | none => .ok none
      match target with
      | .error m => { out := warningsText readWarnings "READ WARNINGS", err := m ++ "\n", code := 2 }
      | .ok target =>
        let results := cards.map fun c => (c, c.problems target settings.maxEmbeddedDepth)
        let lines := results.map fun (c, ps) =>
          if ps.isEmpty then "  " ++ label c ++ "  valid\n"
          else "  " ++ label c ++ "  " ++ toString ps.length ++ " problem(s)\n" ++
            String.join (ps.map fun (p, m) => "    · " ++ p.getD "*" ++ "  " ++ m ++ "\n")
        let problems := (results.map (·.2.length)).foldl (· + ·) 0
        { out := warningsText readWarnings "READ WARNINGS" ++ String.join lines,
          code := if problems > 0 then 1 else 0 }

/-- Runs `inspect`. -/
def inspect (inputPath : String) (input : String) (config : Option String) : Outcome :=
  match settingsOf config with
  | .error e => { err := e.message ++ "\n", code := 1 }
  | .ok settings =>
    match readInput inputPath input settings with
    | .error e => { err := "Could not read " ++ inputPath ++ ": " ++ e.message ++ "\n", code := 2 }
    | .ok (cards, readWarnings) =>
      let cardText (c : Card) : String :=
        label c ++ "  vCard " ++ c.version.text ++ "\n" ++
          String.join (c.properties.map fun p =>
            "  " ++ (match p.group with
              | some g => g ++ "."
              | none => "") ++ p.name ++ "\t" ++ Json.compact (p.value.toJson) ++ "\n")
      { out := String.join (cards.map cardText) ++ warningsText readWarnings "READ WARNINGS" }

/-- Runs `init-config`, given whether the file is there already. -/
def initConfig (path : String) (present : Bool) : Outcome :=
  if present then { out := path ++ " already exists; left unchanged.\n" }
  else { out := "Wrote " ++ path ++ "\n", writes := [(path, Settings.defaultConfigText)] }

end Cli

end VCard
