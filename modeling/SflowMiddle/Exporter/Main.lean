/-
The main function of src/main.cpp around the threads, and the device it owns
(src/Device.cpp): the shutdown signals, the card and its symbols, the time adjuster,
the three threads and every early return. However the calls go, the card is opened at
most once and closed as often, behind all the threads. Informational logs are left out.
-/

import SflowMiddle.Foundation.DeviceProgram
import SflowMiddle.Foundation.OrderedMap
import Mathlib.Data.List.ReduceOption
import Mathlib.Data.String.Basic

namespace SflowMiddle.Exporter

open SflowMiddle.Foundation
open Device

/-- What the exporter uses of `nfp_rtsym`. -/
structure RtSym where
  name : String
  addr : UInt64
  domain : Int
  deriving DecidableEq, Repr

/-- The signals main waits for, by their numbers. -/
inductive ShutdownSignal where
  | sigint
  | sigterm
  | sighup
  deriving DecidableEq, Repr

def ShutdownSignal.number : ShutdownSignal → Nat
  | sigint => 2
  | sigterm => 15
  | sighup => 1

inductive MainThread where
  | nic
  | tx
  | signal
  deriving DecidableEq, Repr

/-- The symbols main looks up, all of them settings. -/
structure SymbolNames where
  semSym : String := "_global_semaphores"
  semDupSym : String := "_global_semaphores_dup"
  flowKeySym : String := "__flow_key"
  flowKeyDupSym : String := "__flow_key_dup"
  flowDataSym : String := "__flow_data"
  flowDataDupSym : String := "__flow_data_dup"
  counterSemSym : String := "_cglobal_semaphores"
  counterSemDupSym : String := "_cglobal_semaphores_dup"
  counterDataSym : String := "__counter_data"
  counterDataDupSym : String := "__counter_data_dup"
  curStateSym : String := "__cur_state"
  processingMeSym : String := "__processing_me"
  macTimeSymbol : String := "mac_time"
  deriving DecidableEq, Repr

/-- The symbols of the two readers. -/
def SymbolNames.readers (names : SymbolNames) : List String :=
  [names.semSym, names.semDupSym, names.flowKeySym, names.flowKeyDupSym, names.flowDataSym,
    names.flowDataDupSym, names.counterSemSym, names.counterSemDupSym, names.counterDataSym,
    names.counterDataDupSym, names.curStateSym, names.processingMeSym]

def SymbolNames.required (names : SymbolNames) : List String :=
  names.readers ++ [names.macTimeSymbol]

/-! ### The calls -/

/-- `strerror` is the text of the error of the call before. `makeReaders` and
`makeTimeAdjuster` are constructors; `waitUntilStopped` is the loop around the sleeps, and
`requestStop` what wakes the threads behind it. -/
inductive MainCall where
  | sigemptyset
  | sigaddset (signal : ShutdownSignal)
  | pthreadSigmask (signals : List ShutdownSignal)
  | strerror
  | deviceOpen (devnum : UInt32)
  | deviceCpp
  | deviceClose
  | rtsymCount
  | rtsymGet (index : Nat)
  | makeReaders (symbols : List RtSym)
  | makeTimeAdjuster (symbol : RtSym)
  | start (thread : MainThread)
  | waitUntilStopped
  | requestStop
  | join (thread : MainThread)
  | log (message : String)

abbrev MainCall.Reply : MainCall → Type
  | .sigemptyset => Bool
  | .sigaddset _ => Bool
  | .pthreadSigmask _ => Bool
  | .strerror => String
  | .deviceOpen _ => Bool
  | .deviceCpp => Bool
  | .rtsymCount => Int
  | .rtsymGet _ => Option RtSym
  | .makeTimeAdjuster _ => Except String Unit
  | _ => Unit

abbrev MainProgram := Program MainCall MainCall.Reply

def invoke (call : MainCall) : MainProgram call.Reply := .call call .done

/-! ### The signals -/

def addShutdownSignal (signals : List ShutdownSignal) (signal : ShutdownSignal) :
    MainProgram (Option (List ShutdownSignal)) := do
  if ← invoke (.sigaddset signal) then return some (signals ++ [signal])
  else do
    let reason ← invoke .strerror
    invoke (.log ("Failed to add shutdown signal " ++ toString signal.number ++ ": " ++ reason))
    return none

/-- The signals in the order main adds them; the first that fails ends it. -/
def addShutdownSignals (signals : List ShutdownSignal) :
    List ShutdownSignal → MainProgram (Option (List ShutdownSignal))
  | [] => return some signals
  | signal :: rest => do
      match ← addShutdownSignal signals signal with
      | none => return none
      | some signals => addShutdownSignals signals rest

def blockShutdownSignals : Option (List ShutdownSignal) → MainProgram Bool
  | none => return false
  | some signals => do
      if ← invoke (.pthreadSigmask signals) then return true
      else do
        let reason ← invoke .strerror
        invoke (.log ("Failed to block shutdown signals: " ++ reason))
        return false

def setupShutdownSignals : MainProgram Bool := do
  if ← invoke .sigemptyset then
    addShutdownSignals [] [.sigint, .sigterm, .sighup] >>= blockShutdownSignals
  else do
    let reason ← invoke .strerror
    invoke (.log ("Failed to initialize shutdown signal set: " ++ reason))
    return false

/-! ### The device -/

abbrev SymbolCache := OrderedMap String RtSym

def rememberSymbol (cache : SymbolCache) : Option RtSym → SymbolCache
  | none => cache
  | some rtsym => cache.modify rtsym.name rtsym fun _ => rtsym

def loadSymbols (cache : SymbolCache) : List Nat → MainProgram SymbolCache
  | [] => return cache
  | index :: rest => do
      let rtsym ← invoke (.rtsymGet index)
      loadSymbols (rememberSymbol cache rtsym) rest

/-- The constructor of NFPDevice; an error is what it throws. -/
def openDevice (devnum : UInt32) : MainProgram (Except String SymbolCache) := do
  if ← invoke (.deviceOpen devnum) then
    if ← invoke .deviceCpp then
      let symbolCount ← invoke .rtsymCount
      let cache ← loadSymbols OrderedMap.empty (List.range symbolCount.toNat)
      return .ok cache
    else do
      invoke .deviceClose
      let reason ← invoke .strerror
      return .error ("nfp_device_cpp failed: " ++ reason)
  else do
    let reason ← invoke .strerror
    return .error ("nfp_device_open failed: " ++ reason)

def getSymbolData (cache : SymbolCache) (symbolName : String) : Option RtSym :=
  cache.find? symbolName

/-! ### The main function -/

def missingSymbols (names : SymbolNames) (cache : SymbolCache) : List String :=
  names.required.filter fun name => (getSymbolData cache name).isNone

def logMissing : List String → MainProgram Unit
  | [] => return ()
  | name :: rest => do
      invoke (.log ("  missing: " ++ name))
      logMissing rest

def reportMissing (names : SymbolNames) (cache : SymbolCache) : MainProgram Nat := do
  invoke (.log "Fatal: one or more required symbols not found on SmartNIC")
  logMissing (missingSymbols names cache)
  return 1

def runThreads : MainProgram Nat := do
  invoke (.start .nic)
  invoke (.start .tx)
  invoke (.start .signal)
  invoke .waitUntilStopped
  invoke .requestStop
  invoke (.join .signal)
  invoke (.join .nic)
  invoke (.join .tx)
  return 0

/-- From the symbol lookups to the return, as long as the device is open. -/
def useDevice (names : SymbolNames) (cache : SymbolCache) : MainProgram Nat :=
  match getSymbolData cache names.macTimeSymbol with
  | none => reportMissing names cache
  | some symMacTime =>
      if missingSymbols names cache ≠ [] then reportMissing names cache
      else do
        invoke (.makeReaders (names.readers.filterMap (getSymbolData cache)))
        match ← invoke (.makeTimeAdjuster symMacTime) with
        | .error what => do
            invoke (.log ("Fatal: " ++ what))
            return 1
        | .ok () => runThreads

/-- The destructor of the device runs on every return behind its construction. -/
def main (devnum : UInt32) (names : SymbolNames) : MainProgram Nat := do
  if ← setupShutdownSignals then
    match ← openDevice devnum with
    | .error what => do
        invoke (.log ("Fatal: " ++ what))
        return 1
    | .ok cache => do
        let code ← useDevice names cache
        invoke .deviceClose
        return code
  else return 1

/-! ### What the calls do -/

/-- What the calls change, and the symbol table the opened device shows. -/
structure Machine where
  table : List (Option RtSym)
  blocked : List ShutdownSignal := []
  opened : Bool := false
  opens : Nat := 0
  closes : Nat := 0
  scanned : Bool := false
  threads : List MainThread := []
  started : List MainThread := []
  logged : List String := []

/-- The symbol table is as it is; any other reply may come. -/
def MainCall.Permits (machine : Machine) : (call : MainCall) → call.Reply → Prop
  | .rtsymCount, symbolCount => symbolCount = machine.table.length
  | .rtsymGet index, rtsym => rtsym = machine.table.getD index none
  | _, _ => True

def Machine.after (machine : Machine) : (call : MainCall) → call.Reply → Machine
  | .pthreadSigmask signals, blocked =>
      if blocked then { machine with blocked := machine.blocked ++ signals } else machine
  | .deviceOpen _, opened =>
      if opened then { machine with opened := true, opens := machine.opens + 1 } else machine
  | .deviceClose, _ => { machine with opened := false, closes := machine.closes + 1 }
  | .rtsymCount, _ => { machine with scanned := true }
  | .start thread, _ =>
      { machine with
        threads := machine.threads ++ [thread]
        started := machine.started ++ [thread] }
  | .join thread, _ => { machine with threads := machine.threads.erase thread }
  | .log message, _ => { machine with logged := machine.logged ++ [message] }
  | _, _ => machine

/-- The symbol the table holds last under a name. -/
def lastNamed (table : List (Option RtSym)) (name : String) : Option RtSym :=
  (table.reduceOption.filter fun rtsym => rtsym.name = name).getLast?

/-- The device is used while it is open, threads only run meanwhile and with the signals
blocked, and what is made of symbols is made of the last ones under the configured names. -/
def MainSafe (names : SymbolNames) (machine : Machine) : Option MainCall → Prop
  | none => machine.opened = false ∧ machine.threads = []
  | some (.deviceOpen _) => machine.opened = false
  | some .deviceCpp => machine.opened = true
  | some .rtsymCount => machine.opened = true
  | some (.rtsymGet _) => machine.opened = true
  | some (.makeReaders symbols) =>
      machine.opened = true ∧
        symbols.map some = names.readers.map (lastNamed machine.table)
  | some (.makeTimeAdjuster symbol) =>
      machine.opened = true ∧ lastNamed machine.table names.macTimeSymbol = some symbol
  | some (.start _) => machine.opened = true ∧ ∀ signal, signal ∈ machine.blocked
  | some (.join thread) => thread ∈ machine.threads
  | some .deviceClose => machine.opened = true ∧ machine.threads = []
  | _ => True

def mainDevice (names : SymbolNames) : Device Machine MainCall MainCall.Reply :=
  solitary MainCall.Permits Machine.after (MainSafe names)

/-! ### The symbol cache -/

private theorem find?_rememberSymbol (cache : SymbolCache) (entry : Option RtSym) (name : String) :
    (rememberSymbol cache entry).find? name =
      (entry.filter fun rtsym => rtsym.name = name).or (cache.find? name) := by
  cases entry with
  | none => rfl
  | some rtsym =>
      by_cases same : rtsym.name = name
      · subst same
        simp [rememberSymbol, Option.filter]
      · have other : name ≠ rtsym.name := Ne.symm same
        rw [rememberSymbol, OrderedMap.find?_modify_of_ne _ _ _ other]
        simp [Option.filter, same]

private theorem find?_foldl_rememberSymbol (table : List (Option RtSym)) (name : String) :
    (table.foldl rememberSymbol OrderedMap.empty).find? name = lastNamed table name := by
  induction table using List.reverseRecOn with
  | nil => rfl
  | append_singleton table entry ih =>
      rw [List.foldl_concat, find?_rememberSymbol, ih]
      unfold lastNamed
      rw [List.reduceOption_append, List.filter_append]
      cases entry with
      | none => simp
      | some rtsym =>
          by_cases same : rtsym.name = name
          · simp [same]
          · simp [same, Option.filter]

private theorem find?_loadedSymbols (table : List (Option RtSym)) (name : String) :
    ((List.range table.length).foldl
      (fun cache index => rememberSymbol cache (table.getD index none))
        OrderedMap.empty).find? name = lastNamed table name := by
  have whole : (List.range table.length).map (fun index => table.getD index none) = table := by
    apply List.ext_getElem
    · simp
    · intro index left right
      simp [right]
  rw [← find?_foldl_rememberSymbol]
  conv_rhs => rw [← whole]
  rw [List.foldl_map]

/-! ### One part after the other -/

section Parts

variable {names : SymbolNames} {machine : Machine} {α : Type} {after : α → Machine → Prop}

private theorem meets_log {message : String} {next : Unit → MainProgram α}
    (continued : (mainDevice names).Meets (next ())
      (· = { machine with logged := machine.logged ++ [message] }) after) :
    (mainDevice names).Meets (invoke (.log message) >>= next) (· = machine) after :=
  Meets.solitary_call trivial fun _ _ => continued

private theorem addShutdownSignals_meets {next : Option (List ShutdownSignal) → MainProgram α}
    (failed : ∀ message, (mainDevice names).Meets (next none)
      (· = { machine with logged := machine.logged ++ [message] }) after)
    (rest signals : List ShutdownSignal)
    (added : (mainDevice names).Meets (next (some (signals ++ rest))) (· = machine) after) :
    (mainDevice names).Meets (addShutdownSignals signals rest >>= next) (· = machine) after := by
  induction rest generalizing signals with
  | nil =>
      rw [List.append_nil] at added
      exact added
  | cons signal rest ih =>
      refine Meets.solitary_call trivial ?_
      intro reply _
      cases reply with
      | true =>
          rw [List.append_cons] at added
          exact ih (signals ++ [signal]) added
      | false =>
          refine Meets.solitary_call trivial ?_
          intro reason _
          exact meets_log (failed _)

private theorem setupShutdownSignals_meets {next : Bool → MainProgram α}
    (failed : ∀ message, (mainDevice names).Meets (next false)
      (· = { machine with logged := machine.logged ++ [message] }) after)
    (ready : (mainDevice names).Meets (next true)
      (· = { machine with blocked := machine.blocked ++ [.sigint, .sigterm, .sighup] }) after) :
    (mainDevice names).Meets (setupShutdownSignals >>= next) (· = machine) after := by
  refine Meets.solitary_call trivial ?_
  intro reply _
  cases reply with
  | false =>
      refine Meets.solitary_call trivial ?_
      intro reason _
      exact meets_log (failed _)
  | true =>
      change (mainDevice names).Meets
        ((addShutdownSignals [] [.sigint, .sigterm, .sighup] >>= blockShutdownSignals) >>= next)
        (· = machine) after
      rw [Program.bind_assoc]
      refine addShutdownSignals_meets ?_ _ _ ?_
      · exact failed
      · refine Meets.solitary_call trivial ?_
        intro blocked _
        cases blocked with
        | true => exact ready
        | false =>
            refine Meets.solitary_call trivial ?_
            intro reason _
            exact meets_log (failed _)

private theorem loadSymbols_meets {next : SymbolCache → MainProgram α}
    (opened : machine.opened = true)
    (indices : List Nat) (cache : SymbolCache)
    (loaded : (mainDevice names).Meets
      (next (indices.foldl
        (fun cache index => rememberSymbol cache (machine.table.getD index none)) cache))
      (· = machine) after) :
    (mainDevice names).Meets (loadSymbols cache indices >>= next) (· = machine) after := by
  induction indices generalizing cache with
  | nil => exact loaded
  | cons index rest ih =>
      refine Meets.solitary_call opened ?_
      rintro _ rfl
      exact ih _ loaded

private theorem openDevice_meets {next : Except String SymbolCache → MainProgram α}
    {devnum : UInt32}
    (closed : machine.opened = false) (idle : machine.threads = [])
    (failed : ∀ what,
      (mainDevice names).Meets (next (.error what)) (· = machine) after)
    (opened : ∀ cache : SymbolCache,
      (∀ name, getSymbolData cache name = lastNamed machine.table name) →
      (mainDevice names).Meets (next (.ok cache))
        (· = { machine with opened := true, opens := machine.opens + 1, scanned := true }) after)
    (unusable : ∀ what, (mainDevice names).Meets (next (.error what))
      (· = { machine with
        opened := false, opens := machine.opens + 1, closes := machine.closes + 1 }) after) :
    (mainDevice names).Meets (openDevice devnum >>= next) (· = machine) after := by
  refine Meets.solitary_call closed ?_
  intro reply _
  cases reply with
  | false =>
      refine Meets.solitary_call trivial ?_
      intro reason _
      exact failed _
  | true =>
      refine Meets.solitary_call rfl ?_
      intro usable _
      cases usable with
      | false =>
          refine Meets.solitary_call ⟨rfl, idle⟩ ?_
          intro _ _
          refine Meets.solitary_call trivial ?_
          intro reason _
          exact unusable _
      | true =>
          refine Meets.solitary_call rfl ?_
          rintro _ rfl
          change (mainDevice names).Meets
            ((loadSymbols OrderedMap.empty (List.range machine.table.length) >>=
              fun cache => pure (.ok cache)) >>= next)
            (· = { machine with opened := true, opens := machine.opens + 1, scanned := true }) after
          rw [Program.bind_assoc]
          exact loadSymbols_meets rfl _ _ (opened _ fun name => find?_loadedSymbols _ name)

private theorem logMissing_meets {next : Unit → MainProgram α} (missing : List String)
    (continued : (mainDevice names).Meets (next ())
      (· = { machine with
        logged := machine.logged ++ missing.map fun name => "  missing: " ++ name }) after) :
    (mainDevice names).Meets (logMissing missing >>= next) (· = machine) after := by
  induction missing generalizing machine with
  | nil =>
      rw [List.map_nil, List.append_nil] at continued
      exact continued
  | cons name rest ih =>
      refine meets_log (ih ?_)
      rw [List.append_assoc]
      exact continued

end Parts

def unavailable (names : SymbolNames) (table : List (Option RtSym)) : List String :=
  names.required.filter fun name => (lastNamed table name).isNone

def missingReport (missing : List String) : List String :=
  "Fatal: one or more required symbols not found on SmartNIC" ::
    missing.map fun name => "  missing: " ++ name

def Machine.ready (table : List (Option RtSym)) : Machine :=
  { table := table
    blocked := [.sigint, .sigterm, .sighup]
    opened := true
    opens := 1
    scanned := true }

section Use

variable {names : SymbolNames} {table : List (Option RtSym)} {α : Type}
  {after : α → Machine → Prop} {next : Nat → MainProgram α} {cache : SymbolCache}

private theorem missingSymbols_eq
    (known : ∀ name, getSymbolData cache name = lastNamed table name) :
    missingSymbols names cache = unavailable names table := by
  unfold missingSymbols unavailable
  simp only [known]

private theorem reportMissing_meets
    (known : ∀ name, getSymbolData cache name = lastNamed table name)
    (missing : (mainDevice names).Meets (next 1)
      (· = { Machine.ready table with logged := missingReport (unavailable names table) })
        after) :
    (mainDevice names).Meets (reportMissing names cache >>= next) (· = .ready table) after := by
  rw [← missingSymbols_eq known] at missing
  refine meets_log ?_
  change (mainDevice names).Meets
    ((logMissing (missingSymbols names cache) >>= fun _ => pure 1) >>= next) _ after
  rw [Program.bind_assoc]
  exact logMissing_meets _ missing

private theorem map_some_filterMap {Item Value : Type} {find : Item → Option Value}
    {items : List Item}
    (found : ∀ item ∈ items, (find item).isSome) :
    (items.filterMap find).map some = items.map find := by
  induction items with
  | nil => rfl
  | cons item rest ih =>
      obtain ⟨value, same⟩ := Option.isSome_iff_exists.mp (found item List.mem_cons_self)
      rw [List.filterMap_cons_some same, List.map_cons, List.map_cons, same,
        ih fun other member => found other (List.mem_cons_of_mem item member)]

private theorem runThreads_meets
    (ran : (mainDevice names).Meets (next 0)
      (· = { Machine.ready table with started := [.nic, .tx, .signal] }) after) :
    (mainDevice names).Meets (runThreads >>= next) (· = .ready table) after := by
  have blocked : ∀ signal, signal ∈ (Machine.ready table).blocked := by
    intro signal
    cases signal <;> simp [Machine.ready]
  refine Meets.solitary_call ⟨rfl, blocked⟩ fun _ _ => ?_
  refine Meets.solitary_call ⟨rfl, blocked⟩ fun _ _ => ?_
  refine Meets.solitary_call ⟨rfl, blocked⟩ fun _ _ => ?_
  refine Meets.solitary_call trivial fun _ _ => ?_
  refine Meets.solitary_call trivial fun _ _ => ?_
  refine Meets.solitary_call (by simp [MainSafe, Machine.after]) fun _ _ => ?_
  refine Meets.solitary_call (by simp [MainSafe, Machine.after, Machine.ready]) fun _ _ => ?_
  refine Meets.solitary_call (by simp [MainSafe, Machine.after, Machine.ready]) fun _ _ => ?_
  exact ran

private theorem useDevice_meets (known : ∀ name, getSymbolData cache name = lastNamed table name)
    (missing : unavailable names table ≠ [] → (mainDevice names).Meets (next 1)
      (· = { Machine.ready table with logged := missingReport (unavailable names table) }) after)
    (uncalibrated : unavailable names table = [] → ∀ what, (mainDevice names).Meets (next 1)
      (· = { Machine.ready table with logged := ["Fatal: " ++ what] }) after)
    (ran : unavailable names table = [] → (mainDevice names).Meets (next 0)
      (· = { Machine.ready table with started := [.nic, .tx, .signal] }) after) :
    (mainDevice names).Meets (useDevice names cache >>= next) (· = .ready table) after := by
  unfold useDevice
  cases clock : getSymbolData cache names.macTimeSymbol with
  | none =>
      refine reportMissing_meets known (missing ?_)
      refine List.ne_nil_of_mem (List.mem_filter.mpr
        ⟨List.mem_append_right _ (List.mem_singleton_self names.macTimeSymbol), ?_⟩)
      rw [← known, clock]
      rfl
  | some symMacTime =>
      by_cases complete : unavailable names table = []
      · have found : ∀ name ∈ names.readers, (getSymbolData cache name).isSome := by
          intro name member
          by_contra absent
          have listed : name ∈ unavailable names table := by
            refine List.mem_filter.mpr ⟨List.mem_append_left _ member, ?_⟩
            rw [← known]
            simpa using absent
          rw [complete] at listed
          cases listed
        have readers : (names.readers.filterMap (getSymbolData cache)).map some =
            names.readers.map (lastNamed table) := by
          rw [map_some_filterMap found]
          exact List.map_congr_left fun name _ => known name
        rw [known] at clock
        dsimp only
        rw [if_neg (by rw [missingSymbols_eq known]; exact not_not.mpr complete)]
        refine Meets.solitary_call ⟨rfl, readers⟩ fun _ _ => ?_
        refine Meets.solitary_call ⟨rfl, clock⟩ ?_
        intro constructed _
        cases constructed with
        | error what => exact meets_log (uncalibrated complete what)
        | ok _ => exact runThreads_meets (ran complete)
      · dsimp only
        rw [if_pos (by rw [missingSymbols_eq known]; exact complete)]
        exact reportMissing_meets known (missing complete)

end Use

/-! ### Every way through main -/

structure MainOutcome (names : SymbolNames) (table : List (Option RtSym)) (code : Nat)
    (machine : Machine) : Prop where
  released : machine.opened = false ∧ machine.closes = machine.opens
  once : machine.opens ≤ 1
  joined : machine.threads = []
  succeeded : code = 0 → machine.logged = [] ∧ machine.started = [.nic, .tx, .signal] ∧
    unavailable names table = []
  failed : code ≠ 0 → code = 1 ∧ machine.logged ≠ [] ∧ machine.started = []
  missing : machine.scanned = true → unavailable names table ≠ [] →
    code = 1 ∧ machine.logged = missingReport (unavailable names table)

/-- No call is out of place at any point, however the calls before it went, and main leaves
nothing open and no thread behind. -/
structure StartsAndStops (devnum : UInt32) (names : SymbolNames) (table : List (Option RtSym)) :
    Prop where
  safe : ∀ rest machine,
    (mainDevice names).Reaches (main devnum names) { table := table } rest machine →
      MainSafe names machine rest.issues
  outcome : ∀ code machine,
    (mainDevice names).Returns (main devnum names) { table := table } code machine →
      MainOutcome names table code machine

private theorem main_meets (devnum : UInt32) (names : SymbolNames) (table : List (Option RtSym)) :
    (mainDevice names).Meets (main devnum names) (· = { table := table })
      (MainOutcome names table) := by
  refine setupShutdownSignals_meets ?_ ?_
  · intro message
    refine Meets.solitary_done ⟨rfl, rfl⟩ ?_
    constructor <;> simp
  · refine openDevice_meets rfl rfl ?_ ?_ ?_
    · intro what
      refine meets_log (Meets.solitary_done ⟨rfl, rfl⟩ ?_)
      constructor <;> simp
    · intro cache known
      refine useDevice_meets known ?_ ?_ ?_
      · intro absent
        refine Meets.solitary_call ⟨rfl, rfl⟩ fun _ _ => Meets.solitary_done ⟨rfl, rfl⟩ ?_
        constructor <;> simp [Machine.after, Machine.ready, missingReport, absent]
      · intro complete what
        refine Meets.solitary_call ⟨rfl, rfl⟩ fun _ _ => Meets.solitary_done ⟨rfl, rfl⟩ ?_
        constructor <;> simp [Machine.after, Machine.ready, complete]
      · intro complete
        refine Meets.solitary_call ⟨rfl, rfl⟩ fun _ _ => Meets.solitary_done ⟨rfl, rfl⟩ ?_
        constructor <;> simp [Machine.after, Machine.ready, complete]
    · intro what
      refine meets_log (Meets.solitary_done ⟨rfl, rfl⟩ ?_)
      constructor <;> simp

/-- Whatever the device, the symbol table and the constructors answer: the card is opened at
most once, used only while it is open and closed exactly then; threads run only with the
signals blocked and are joined before the card is closed; main returns 0 exactly when they ran,
and with a symbol missing it names all those that are. -/
theorem main_starts_and_stops (devnum : UInt32) (names : SymbolNames)
    (table : List (Option RtSym)) : StartsAndStops devnum names table where
  safe _ _ reaches := (main_meets devnum names table).safe_of_reaches reaches rfl
  outcome _ _ returns := (main_meets devnum names table).returns returns rfl

end SflowMiddle.Exporter
