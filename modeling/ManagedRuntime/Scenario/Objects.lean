import ManagedRuntime.Scenario.MethodCode
import ManagedRuntime.Scenario.State

/-! Steps on memory: tables, objects, arrays, strings and their contents. -/
namespace ManagedRuntime.Scenario.State
open Memory

/-- Lets the process act and tells the event unless the process ended. -/
def tellUnlessEnded (state : State) (me : Nat) (event : Event) : State :=
  if state.machine.ended.isSome then state.flushJournal me else state.tell me event

def makeTable (state : State) (me : Nat) (name : String) (methods : List MethodName)
    (interfaces : List Dispatch.InterfaceEntry) : State :=
  let blueprint : Dispatch.Blueprint := ⟨methods.map (MethodCode.address state.codeBase),
    interfaces⟩
  match state.machine.buildTable blueprint with
  | .error fault => state.tell me (.refusedTable fault)
  | .ok (none, machine) => (state.setMachine machine).flushJournal me
  | .ok (some address, machine) =>
    { state with machine, tables := (name, address) :: state.tables }.tell me
      (.table methods.length interfaces.length)

/-- Takes note of an object the scenario made. -/
def keepObject (state : State) (name : String) (r : Ref) : State :=
  { state.bind name r with made := r.object :: state.made }

/-- Ends an allocation: a refusal is told, or has already ended the process. -/
def allocated (state : State) (me : Nat) (verb name : String) (event : Ref → State → Event) :
    Except Trap Ref × Machine → State
  | (.error reason, machine) => (state.setMachine machine).tell me (.refused verb reason)
  | (.ok r, machine) =>
    let made := (state.setMachine machine).keepObject name r
    made.tellUnlessEnded me (event r made)

/-- An allocation through an entry point never returns a refusal. -/
def allocatedOrTrapped (state : State) (me : Nat) (name : String) (event : Ref → State → Event) :
    Option Ref × Machine → State
  | (none, machine) => (state.setMachine machine).flushJournal me
  | (some r, machine) =>
    let made := (state.setMachine machine).keepObject name r
    made.tellUnlessEnded me (event r made)

def monitorEvent (verb : String) (object : UInt64) (token : Token) (state : State) : Event :=
  let monitor := state.machine.heap.monitor object
  .monitor verb monitor.depth.toNat (monitor.isHeldBy token)

/-- Makes an object for a thread with this token. -/
def makeObjectAs (state : State) (me : Nat) (token : Token) (name : String) (size : UInt64)
    (table : Option String) (route : Route) : State :=
  let address := state.tableAddress table
  let event (r : Ref) (state : State) := monitorEvent "object" r.object token state
  match route with
  | .entryPoint =>
      state.allocatedOrTrapped me name event (EntryPoint.objectNew state.machine size address)
  | .direct | .stub =>
      state.allocated me "object" name event (state.machine.newObject size address)

def makeObject (state : State) (me : Nat) (name : String) (size : UInt64) (table : Option String)
    (route : Route) : State :=
  let (token, state) := state.currentToken me
  state.makeObjectAs me token name size table route

def makeArray (state : State) (me : Nat) (name : String) (length : UInt32) (width : UInt64)
    (route : Route) : State :=
  let event (_ : Ref) (_ : State) : Event := .plain "array"
  match route with
  | .entryPoint =>
      state.allocatedOrTrapped me name event (EntryPoint.arrayNew state.machine length width)
  | .direct | .stub => state.allocated me "array" name event (state.machine.newArray length width)

/-- Asks for the table of new arrays and tells it. -/
def tellArrayTable (state : State) (me : Nat) : State :=
  match state.machine.arrayTable with
  | (none, ended) => (state.setMachine ended).flushJournal me
  | (some table, ready) => (state.setMachine ready).tell me (.arrayTable (state.tableName table))

def setArrayTable (state : State) (me : Nat) (table : Option String) (route : Route) : State :=
  let address := state.tableAddress table
  let machine := match route with
    | .entryPoint => EntryPoint.setArrayTable state.machine address
    | .direct | .stub => state.machine.setArrayTable address
  (state.setMachine machine).tellArrayTable me

def referenceView (state : State) (r : Ref) : ReferenceView :=
  let table := state.machine.heap.table r
  { isNull := r.isNull
    name := state.nameOf r
    table := if r.table = 0 then none
      else some ⟨state.tableName r.table, Dispatch.Table.length table,
        Dispatch.Table.interfaceCount table⟩
    hashIsAddress := r.identityHash == r.object.toUInt32
    fields := if r.object ∈ state.made then
        let pointer := r.fieldPointer
        some ((pointer - r.object).toNat, pointer.toNat % Format.objectAlign.toNat == 0)
      else none }

def writeBytes (state : State) (me : Nat) (r : Ref) (position : Nat) (bytes : List UInt8) : State :=
  let heap := state.machine.heap
  (state.setMachine { state.machine with
    heap := heap.setFields r ((heap.fields r).write position bytes) }).tell me
      (.wrote bytes.length)

def readBytes (state : State) (me : Nat) (r : Ref) (position count : Nat) : State :=
  state.tell me (.bytes ((state.machine.heap.fields r).read position count))

def arrayInfo (state : State) (me : Nat) (r : Ref) (route : Route) : State :=
  let heap := state.machine.heap
  let (length, fields, elements) := match route with
    | .entryPoint => (EntryPoint.arrayLength state.machine r, EntryPoint.fieldPointer r,
        EntryPoint.elementPointer r)
    | .direct | .stub => (heap.arrayLength r, r.fieldPointer, r.dataPointer)
  state.tell me (.array length.toNat (heap.arrayWidth r).toNat (elements - fields).toNat
    (state.tableName r.table))

def copyArray (state : State) (me : Nat) (source : Ref) (sourceStart : Int) (destination : Ref)
    (destinationStart count : Int) (route : Route) : State :=
  match route with
  | .direct =>
    match state.machine.copyArray source (.ofInt sourceStart) destination (.ofInt destinationStart)
        (.ofInt count) with
    | .ok machine => (state.setMachine machine).tell me (.plain "copy")
    | .error reason => state.tell me (.refused "copy" reason)
  | .entryPoint =>
    (state.setMachine (EntryPoint.arrayCopy state.machine source (.ofInt sourceStart) destination
      (.ofInt destinationStart) (.ofInt count))).tellUnlessEnded me (.plain "copy")
  | .stub =>
    (state.setMachine (Native.Stub.callArrayCopy state.machine source (.ofInt sourceStart)
      destination (.ofInt destinationStart) (.ofInt count))).tellUnlessEnded me (.plain "copy")

def stats (state : State) (me : Nat) : State :=
  let heap := state.machine.heap
  state.tell me (.stats heap.objectsAllocated.toNat heap.bytesAllocated.toNat)

def vtableLookup (state : State) (me : Nat) (r : Ref) (index : Nat) (route : Route) : State :=
  let method := match route with
    | .entryPoint => EntryPoint.vtableLookup state.machine r (UInt64.ofNat index)
    | .direct | .stub => state.machine.vtableLookup r index
  state.tell me (.method "vlookup" (some (MethodCode.text state.codeBase method)))

def itableLookup (state : State) (me : Nat) (r : Ref) (interface : UInt64) (index : Nat)
    (route : Route) : State :=
  match route with
  | .entryPoint =>
    let (method, machine) :=
      EntryPoint.itableLookup state.machine r interface (UInt64.ofNat index)
    (state.setMachine machine).tell me (.method "ilookup"
      (some (MethodCode.text state.codeBase method)))
  | .direct | .stub =>
    state.tell me (.method "ilookup"
      ((state.machine.itableLookup r interface index).map (MethodCode.text state.codeBase)))

def makeString (state : State) (me : Nat) (name : String) (bytes : Option (List UInt8))
    (copied : Bool) : State :=
  match bytes with
  | none =>
    (state.bind name .null).tell me (.nullString (state.tableName Ref.null.table))
  | some bytes =>
    let (address, heap) := state.machine.heap.placeText bytes
    let (r, heap) :=
      if copied then heap.copyString (heap.textAt address)
      else (EntryPoint.loadString address, heap)
    let made := (state.setMachine { state.machine with heap }).bind name r
    made.tell me (.string (heap.textAt r.object) (r.object == address) (state.tableName r.table))

/-- Prints through the slot that `System.out` keeps for it. -/
def println (state : State) (me : Nat) (r : Ref) : State :=
  let out := state.reference "$out"
  let slot := UInt64.ofNat Native.printlnSlot
  match MethodCode.ofAddress state.codeBase (EntryPoint.vtableLookup state.machine out slot) with
  | .stub _ =>
    let machine := state.machine.println r
    (state.setMachine machine).tell me
      (.printed (machine.output.drop state.machine.output.length))
  | .compiled _ | .unknown => state

/-- Puts program arguments into memory; only `count` of them are passed on. -/
def placeArguments (heap : Heap) : List (List UInt8) → List UInt64 × Heap
  | [] => ([], heap)
  | bytes :: rest =>
    let (address, heap) := heap.placeText bytes
    let (addresses, heap) := placeArguments heap rest
    (address :: addresses, heap)

def marshalled (state : State) (arguments : List (List UInt8)) (count : Nat) :
    Except Trap Ref × Machine :=
  let (addresses, heap) := placeArguments state.machine.heap (arguments.take count)
  { state.machine with heap }.marshalArguments addresses

def marshal (state : State) (me : Nat) (name : String) (arguments : List (List UInt8))
    (count : Nat) : State :=
  match state.marshalled arguments count with
  | (.error reason, machine) => (state.setMachine machine).tell me (.refused "marshal" reason)
  | (.ok r, machine) =>
    ((state.setMachine machine).bind name r).tellUnlessEnded me (.plain "marshal")

def tellArguments (state : State) (me : Nat) (r : Ref) : State :=
  let heap := state.machine.heap
  let strings := (List.range (heap.arrayLength r).toNat).map fun index =>
    heap.textAt (heap.readRefElement r index).object
  state.tell me (.arguments strings (heap.arrayWidth r).toNat (state.tableName r.table))

def bindArgument (state : State) (me : Nat) (r : Ref) (index : Nat) (name : String) : State :=
  let element := state.machine.heap.readRefElement r index
  (state.bind name element).tell me (.argument (state.tableName element.table))

end ManagedRuntime.Scenario.State
