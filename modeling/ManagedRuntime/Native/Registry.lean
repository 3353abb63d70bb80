/-! The native part of the bootstrap class library: each stub has the symbol compiled code links
against and the name of the method or object it stands for. -/
namespace ManagedRuntime.Native

inductive Kind
  | function
  | data
deriving DecidableEq, Repr

structure Stub where
  symbol : String
  name : String
  kind : Kind
deriving DecidableEq, Repr

namespace Stub

def registerNatives : Stub :=
  ⟨"_ZN4java4lang6Object15registerNativesIu9Jed9fc4b9EEvv",
    "java.lang.Object.registerNatives", .function⟩
def getClass : Stub :=
  ⟨"_ZN4java4lang6Object8getClassIu9Jd57352f6EEN4java4lang5ClassEv",
    "java.lang.Object.getClass", .function⟩
def hashCode : Stub :=
  ⟨"_ZN4java4lang6Object8hashCodeIu9J7c7c3589EEiv", "java.lang.Object.hashCode", .function⟩
def clone : Stub :=
  ⟨"_ZN4java4lang6Object5cloneIu9J117cf78dEEN4java4lang6ObjectEv",
    "java.lang.Object.clone", .function⟩
def notifyOne : Stub :=
  ⟨"_ZN4java4lang6Object6notifyIu9Jec9f6595EEvv", "java.lang.Object.notify", .function⟩
def notifyAll : Stub :=
  ⟨"_ZN4java4lang6Object9notifyAllIu9J01f1085cEEvv", "java.lang.Object.notifyAll", .function⟩
def wait : Stub :=
  ⟨"_ZN4java4lang6Object4waitIu9J70446489EEvl", "java.lang.Object.wait", .function⟩
def arrayCopy : Stub :=
  ⟨"_ZN4java4lang6System9arraycopyIu9Jb7e57d76EEvN4java4lang6ObjectEiN4java4lang6ObjectEii",
    "java.lang.System.arraycopy", .function⟩
def systemOut : Stub := ⟨"_ZN4java4lang6System3outE", "java.lang.System.out", .data⟩
def floatToRawIntBits : Stub :=
  ⟨"_ZN4java4lang5Float17floatToRawIntBitsIu9Jf7687691EEif",
    "java.lang.Float.floatToRawIntBits", .function⟩
def doubleToRawLongBits : Stub :=
  ⟨"_ZN4java4lang6Double19doubleToRawLongBitsIu9Jc8bf6376EEld",
    "java.lang.Double.doubleToRawLongBits", .function⟩
def floatIsNaN : Stub :=
  ⟨"_ZN4java4lang5Float5isNaNIu9Jbff373faEEu7booleanf", "java.lang.Float.isNaN", .function⟩
def doubleIsNaN : Stub :=
  ⟨"_ZN4java4lang6Double5isNaNIu9J0cf9d461EEu7booleand", "java.lang.Double.isNaN", .function⟩
def println : Stub :=
  ⟨"printstream_println_string", "java.io.PrintStream.println(String)", .function⟩
def stringBuilder : Stub :=
  ⟨"_ZTVN4java4lang13StringBuilderE", "java.lang.StringBuilder", .data⟩
def stringBuilderInit : Stub :=
  ⟨"_ZN4java4lang13StringBuilder4initIu9J8cc45093EEvv",
    "java.lang.StringBuilder.<init>", .function⟩
def illegalArgument : Stub :=
  ⟨"_ZTVN4java4lang24IllegalArgumentExceptionE", "java.lang.IllegalArgumentException", .data⟩
def illegalArgumentInit : Stub :=
  ⟨"_ZN4java4lang24IllegalArgumentException4initIu9Jffb6fc97EEvN4java4lang6StringE",
    "java.lang.IllegalArgumentException.<init>", .function⟩
def toHexString : Stub :=
  ⟨"_ZN4java4lang7Integer11toHexStringIu9Jab2e85aaEEN4java4lang6StringEi",
    "java.lang.Integer.toHexString", .function⟩

end Stub

def registered : List Stub :=
  [.registerNatives, .getClass, .hashCode, .clone, .notifyOne, .notifyAll, .wait, .arrayCopy,
    .systemOut, .floatToRawIntBits, .doubleToRawLongBits, .floatIsNaN, .doubleIsNaN, .println,
    .stringBuilder, .stringBuilderInit, .illegalArgument, .illegalArgumentInit, .toHexString]

/-- What the log is told when the stubs are registered. -/
def registeredText : String := "registered " ++ toString registered.length ++ " native symbols"

/-- Every stub, by the name it stands for. -/
def stubs : List Stub := registered.mergeSort fun a b => decide (a.name ≤ b.name)

def lookup? (symbol : String) : Option Stub := registered.find? (·.symbol == symbol)

/-- The bytes before the first zero. -/
def cString (bytes : List UInt8) : List UInt8 := bytes.takeWhile (· != 0)

def text? (bytes : List UInt8) : Option String := String.fromUTF8? ⟨bytes.toArray⟩

/-- The slot of `println(String)` in the table of `System.out`. -/
def printlnSlot : Nat := 43

/-- Number of slots in the table of `System.out`; all but one are empty. -/
def printStreamSlots : Nat := 44

end ManagedRuntime.Native
