import ManagedRuntime.Dispatch.Blueprint
import ManagedRuntime.Exception.Record
import ManagedRuntime.Journal.Logger
import ManagedRuntime.Native.EntryPoints
import ManagedRuntime.Native.Registry

/-! The inspector: a command line that prints layouts, symbols and settings of the runtime. -/
namespace ManagedRuntime.Inspector
open Memory

inductive Command
  | layout
  | symbols (nativesOnly : Bool)
  | settings
  | version
  | help
deriving DecidableEq, Repr

/-- What follows a command: an end mark with nothing behind it, or a request for help. -/
def parseTail (command : Command) : List String → Option Command
  | [] => some command
  | argument :: rest =>
    if argument = "--" then if rest.isEmpty then some command else none
    else if argument = "--help" ∨ argument.startsWith "-h" then some .help
    else none

/-- The flag of `symbols` may stand once. -/
def parseSymbols : List String → Option Command
  | "--natives-only" :: rest => parseTail (.symbols true) rest
  | arguments => parseTail (.symbols false) arguments

def parseHelp : List String → Option Command
  | [] | ["layout"] | ["symbols"] | ["config"] | ["help"] => some .help
  | _ => none

/-- The command that the arguments ask for, if they follow the usage. -/
def parse : List String → Option Command
  | [] => none
  | argument :: rest =>
    match argument with
    | "layout" => parseTail .layout rest
    | "symbols" => parseSymbols rest
    | "config" => parseTail .settings rest
    | "help" => parseHelp rest
    | "--version" => some .version
    | "--help" => some .help
    | _ =>
      if argument.startsWith "-V" then some .version
      else if argument.startsWith "-h" then some .help
      else none

/-- An argument as text. One that is not UTF-8 keeps its leading ASCII characters, which is enough
to tell a short flag; a mark behind them makes it differ from every word of the usage. -/
def decodeArgument (argument : List UInt8) : String :=
  match Native.text? argument with
  | some text => text
  | none =>
    String.ofList
      ((argument.takeWhile (· < 0x80)).map (fun byte => Char.ofNat byte.toNat) ++ ['\ufffd'])

structure Outcome where
  output : String := ""
  errors : String := ""
  exit : Nat := 0
deriving DecidableEq, Repr

def padRight (width : Nat) (text : String) : String :=
  text ++ String.ofList (List.replicate (width - text.length) ' ')

def layoutLines : List String :=
  let number (value : UInt64) := toString value.toNat
  ["reference           " ++ number Format.referenceSize ++ " bytes",
    "  object            +" ++ number Format.referenceObjectAt,
    "  vtable            +" ++ number Format.referenceTableAt,
    "object header       " ++ number Format.objectHeaderSize ++ " bytes, align " ++
      number Format.objectAlign,
    "array header        " ++ number Format.arrayHeaderSize ++ " bytes",
    "  length            +" ++ number Format.arrayLengthAt,
    "  width             +" ++ number Format.arrayWidthAt,
    "  elements          +" ++ number Format.arrayElementsAt,
    "vtable header       " ++ number Format.tableHeaderSize ++ " bytes",
    "itable header       " ++ number Format.interfaceHeaderSize ++ " bytes",
    match Dispatch.tableLayout 0 0 with
    | .ok layout => "empty table         " ++ number layout.size ++ " bytes"
    | .error fault => "empty table         " ++ fault.message,
    "  slot size         " ++ number Format.slotSize ++ " bytes",
    "itable entry        " ++ number Format.interfaceEntrySize ++ " bytes",
    "  interface         +" ++ number Format.entryInterfaceAt,
    "  offset            +" ++ number Format.entryOffsetAt,
    "vtable align        " ++ number Format.tableAlign,
    "exception class     " ++ Text.paddedHexadecimal 8 Exception.recordClass.toNat]

def stubLine (stub : Native.Stub) : String :=
  let kind := match stub.kind with
    | .function => "fn"
    | .data => "data"
  padRight 4 kind ++ " " ++ padRight 44 stub.name ++ " " ++ stub.symbol

def symbolLines (nativesOnly : Bool) : List String :=
  (if nativesOnly then [] else Native.entryPoints) ++ Native.stubs.map stubLine

def unlines (lines : List String) : String := String.join (lines.map (· ++ "\n"))

/-- The first look at the stubs notes how many there are. -/
def registryNote (logger : Logger) : String :=
  if logger.ceiling.admits .debug then
    logger.write ⟨.debug, "jrt::natives", Native.registeredText⟩
  else ""

def perform (environment : Environment) (logger : Logger) : Command → Outcome
  | .layout => { output := unlines layoutLines }
  | .symbols nativesOnly =>
      { output := unlines (symbolLines nativesOnly)
        errors := registryNote logger }
  | .settings =>
    match environment.settings with
    | .ok settings => { output := settings.listing ++ "\n" }
    | .error fault => { errors := "invalid configuration: " ++ fault.message ++ "\n", exit := 1 }
  | .version => { output := "jrt 0.1.0\n" }
  | .help => {}

/-- Sets up the log, which may warn of what it is asked for, and does as it is told. Arguments that
do not follow the usage end with status 2. -/
def run (backend : LogBackend) (arguments : List (List UInt8)) (environment : Environment) :
    Outcome :=
  let outcome := match parse (arguments.map decodeArgument) with
    | some command => perform environment (backend.logger environment) command
    | none => { exit := 2 }
  { outcome with errors := backend.warning environment ++ outcome.errors }

end ManagedRuntime.Inspector
