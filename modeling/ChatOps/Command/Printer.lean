import ChatOps.Command
import ChatOps.Command.Token
import ChatOps.Output

/-!
# Writing commands

The text of a command: its name, then its arguments, its flags and its options,
each as one token.
-/

set_option autoImplicit false

namespace ChatOps.Command

/-- The qualified name of a command with a part behind a colon, unless that is
missing or empty. -/
def headText (address : Address) (name : String) (sub : Option String) : String :=
  let qualified := address.qualify name
  match sub with
  | some part => if part.isEmpty then qualified else qualified ++ ":" ++ part
  | none => qualified

/-- A value as a token. -/
def valueText (value : Json) : String := Token.write (Output.plainText value)

/-- A flag; one that is true has no value. -/
def flagText (key : String) (value : Json) : String :=
  match value with
  | .bool true => "--" ++ key
  | _ => "--" ++ key ++ "=" ++ valueText value

def optionText (key : String) (value : Json) : String := key ++ "=" ++ valueText value

/-- The tokens of a command. -/
def tokenTexts (command : Command) : List String :=
  headText command.address command.name command.sub ::
    (command.args.map valueText ++
      command.flags.entries.map (fun flag => flagText flag.1 flag.2) ++
      command.options.entries.map fun option => optionText option.1 option.2)

/-- The text of a command. -/
def text (command : Command) : String := Text.join " " command.tokenTexts

end ChatOps.Command
