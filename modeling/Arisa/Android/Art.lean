import Arisa.Semantics.Interaction

/-!
# The Java virtual machine

`create_android_vm` finds a way to a virtual machine through the dynamic loader: the
invocation API of `libnativehelper.so`, or else a runtime of an older system. The platform
may answer each call as it likes. `createAndroidVm_safe` says that no run calls a function
that was not found, passes on a null pointer, makes a second machine or takes the old way
while the new one is there.
-/

namespace Arisa.Android.Art

open Arisa.Semantics.Interaction

/-- An address; null is zero. -/
abbrev Pointer := UInt64

def null : Pointer := 0

def rtldNow : Int32 := 2
def rtldGlobal : Int32 := 0x100
def jniOk : Int32 := 0
def jniVersion1_6 : Int32 := 0x00010006

/-- `JavaVMInitArgs`, with no options. -/
structure JavaVmInitArgs where
  version : Int32
  nOptions : Int32
  options : Pointer
  ignoreUnrecognized : Bool

/-- The calls into the loader, and those of functions found with it. -/
inductive Call where
  | dlopen (filename : String) (flags : Int32)
  | dlsym (handle : Pointer) (symbol : String)
  | dlerror
  | invocationCreate (function : Pointer)
  | invocationInit (function invocation library : Pointer)
  | createJavaVm (function : Pointer) (arguments : JavaVmInitArgs)
  | registerFrameworkNatives (function env : Pointer)
  | registerFrameworkNativesLegacy (function env clazz : Pointer)

/-- What `JNI_CreateJavaVM` returns and leaves behind its two pointers. -/
structure CreatedVm where
  status : Int32
  vm : Pointer
  env : Pointer

/-- The text of `dlerror` is the one that `to_string_lossy` makes of it. -/
@[reducible] def Call.Answer : Call → Type
  | .dlopen .. | .dlsym .. | .invocationCreate .. => Pointer
  | .dlerror => Option String
  | .createJavaVm .. => CreatedVm
  | .invocationInit .. | .registerFrameworkNatives .. | .registerFrameworkNativesLegacy .. => Int32

abbrev Loading := Program Call.Answer

/-- `Result<_, String>`. -/
abbrev Booting := Fallible Call.Answer String

def dlopen (filename : String) (flags : Int32) : Loading Pointer :=
  Program.request (Call.dlopen filename flags)

def dlsym (handle : Pointer) (name : String) : Loading Pointer :=
  Program.request (Call.dlsym handle name)

def dlerror : Loading (Option String) :=
  Program.request Call.dlerror

def dlError : Loading String := do
  let error ← dlerror
  return error.getD "unknown dl error"

-- the functions that are called through their pointers

def callInvocationCreate (function : Pointer) : Loading Pointer :=
  Program.request (Call.invocationCreate function)

def callInvocationInit (function invocation library : Pointer) : Loading Int32 :=
  Program.request (Call.invocationInit function invocation library)

def callCreateJavaVm (function : Pointer) (arguments : JavaVmInitArgs) : Loading CreatedVm :=
  Program.request (Call.createJavaVm function arguments)

def callRegister (function env : Pointer) : Loading Int32 :=
  Program.request (Call.registerFrameworkNatives function env)

def callRegisterLegacy (function env clazz : Pointer) : Loading Int32 :=
  Program.request (Call.registerFrameworkNativesLegacy function env clazz)

section

-- `{:?}` of a string
variable (debug : String → String)

/-- `CString::new` refuses a text with a null character. -/
def cString (text : String) (message : String) : Booting Unit :=
  if '\x00' ∈ text.toList then throw message else pure ()

def openLibrary (name : String) (flags : Int32) : Booting Pointer := do
  cString name ("library name contains NUL: " ++ debug name)
  let handle ← dlopen name flags
  if handle = null then throw (← dlError) else return handle

def optionalLibrary (name : String) (flags : Int32) : Loading (Option Pointer) := do
  let opened ← (openLibrary debug name flags).run
  return opened.toOption

def symbol (handle : Pointer) (name : String) : Booting Pointer := do
  cString name ("invalid symbol name: " ++ debug name)
  let value ← dlsym handle name
  if value = null then throw (← dlError) else return value

def optionalSymbol (handle : Pointer) (name : String) : Loading (Option Pointer) := do
  let found ← (symbol debug handle name).run
  return found.toOption

/-- `arguments` of `invoke_create_vm`. -/
def initArguments : JavaVmInitArgs where
  version := jniVersion1_6
  nOptions := 0
  options := null
  ignoreUnrecognized := false

def invokeCreateVm (createVm : Pointer) : Booting (Pointer × Pointer) := do
  let created ← callCreateJavaVm createVm initArguments
  if created.status ≠ jniOk then
    throw ("JNI_CreateJavaVM failed: " ++ toString created.status)
  if created.vm = null then
    throw "JNI_CreateJavaVM returned a null JavaVM"
  if created.env = null then
    throw "JNI_CreateJavaVM returned a null JNIEnv"
  return (created.vm, created.env)

def createVmWithNativehelper (nativehelper : Pointer) : Booting (Pointer × Pointer) := do
  let createInvocation ← symbol debug nativehelper "JniInvocationCreate"
  let initInvocation ← symbol debug nativehelper "JniInvocationInit"
  let invocation ← callInvocationCreate createInvocation
  if invocation = null then
    throw "JniInvocationCreate returned null"
  let initialized ← callInvocationInit initInvocation invocation null
  if initialized = 0 then
    throw "JniInvocationInit failed"
  let createVm ← symbol debug nativehelper "JNI_CreateJavaVM"
  invokeCreateVm createVm

def createVmFromRuntime (runtimeName : String) : Booting (Pointer × Pointer) := do
  let runtime ← (openLibrary debug runtimeName (rtldNow ||| rtldGlobal)).adapt fun error =>
    "cannot open " ++ runtimeName ++ ": " ++ error
  let createVm ← (symbol debug runtime "JNI_CreateJavaVM").adapt fun error =>
    runtimeName ++ " has no usable JNI_CreateJavaVM: " ++ error
  invokeCreateVm createVm

def runtimes : List String := ["libart.so", "libdvm.so"]

/-- The loop of `create_vm_legacy`. -/
def createVmFromRuntimes (errors : List String) : List String → Booting (Pointer × Pointer)
  | [] => throw ("no usable Android Java runtime found: " ++ "; ".intercalate errors)
  | runtime :: rest => do
      match ← Fallible.attempt (createVmFromRuntime debug runtime) with
      | .ok vm => return vm
      | .error error => createVmFromRuntimes (errors ++ [error]) rest

def createVmLegacy : Booting (Pointer × Pointer) :=
  createVmFromRuntimes debug [] runtimes

def tryCreateVmWithNativehelper : Booting (Option (Pointer × Pointer)) := do
  match ← optionalLibrary debug "libnativehelper.so" (rtldNow ||| rtldGlobal) with
  | none => return none
  | some nativehelper =>
      let hasCreate := (← optionalSymbol debug nativehelper "JniInvocationCreate").isSome
      let hasInit := (← optionalSymbol debug nativehelper "JniInvocationInit").isSome
      let hasCreateVm := (← optionalSymbol debug nativehelper "JNI_CreateJavaVM").isSome
      if ¬ hasCreate ∨ ¬ hasInit ∨ ¬ hasCreateVm then
        return none
      some <$> createVmWithNativehelper debug nativehelper

def registerFrameworkNatives (androidRuntime env : Pointer) : Booting Unit := do
  match ← optionalSymbol debug androidRuntime "registerFrameworkNatives" with
  | some register =>
      let result ← callRegister register env
      if result ≠ jniOk then
        throw ("registerFrameworkNatives failed: " ++ toString result)
  | none =>
      match ← optionalSymbol debug androidRuntime
          "Java_com_android_internal_util_WithFramework_registerNatives" with
      | some register =>
          let result ← callRegisterLegacy register env null
          if result ≠ jniOk then
            throw ("WithFramework.registerNatives failed: " ++ toString result)
      | none => throw "no framework native registration function found"

def createAndroidVm : Booting Pointer := do
  let _ ← optionalLibrary debug "libsigchain.so" (rtldNow ||| rtldGlobal)
  let androidRuntime ← (openLibrary debug "libandroid_runtime.so"
    (rtldNow ||| rtldGlobal)).adapt fun error => "cannot open libandroid_runtime.so: " ++ error
  let (rawVm, rawEnv) ← do
    match ← Fallible.attempt (tryCreateVmWithNativehelper debug) with
    | .ok (some vm) => pure vm
    | .ok none => createVmLegacy debug
    | .error nativehelperError =>
        throw ("JniInvocation initialization failed: " ++ nativehelperError)
  registerFrameworkNatives debug androidRuntime rawEnv
  return rawVm

end

/-! ### What is allowed when -/

abbrev Past := History Call.Answer

/-- The loader has answered this handle for the library. -/
def Opened (past : Past) (handle : Pointer) (library : String) : Prop :=
  handle ≠ null ∧ ∃ flags, ⟨.dlopen library flags, handle⟩ ∈ past

/-- The symbol of an open library. -/
def Found (past : Past) (function : Pointer) (library name : String) : Prop :=
  function ≠ null ∧ ∃ handle, Opened past handle library ∧ ⟨.dlsym handle name, function⟩ ∈ past

/-- The library lacks the symbol. -/
def Lacks (past : Past) (library name : String) : Prop :=
  ∃ handle, Opened past handle library ∧ ⟨.dlsym handle name, null⟩ ∈ past

/-- The invocation API is not there, or a part of it. -/
def Unavailable (past : Past) : Prop :=
  (∃ flags, ⟨.dlopen "libnativehelper.so" flags, null⟩ ∈ past) ∨
    ∃ name ∈ ["JniInvocationCreate", "JniInvocationInit", "JNI_CreateJavaVM"],
      Lacks past "libnativehelper.so" name

/-- A virtual machine with the environment of this thread: the call returned `JNI_OK` and neither
is null. A creation that says `JNI_OK` without an environment does not count, and is followed by
the next runtime's. -/
def Made (past : Past) (vm env : Pointer) : Prop :=
  vm ≠ null ∧ env ≠ null ∧
    ∃ function arguments, ⟨.createJavaVm function arguments, ⟨jniOk, vm, env⟩⟩ ∈ past

def NoVm (past : Past) : Prop :=
  ∀ vm env, ¬ Made past vm env

/-- The natives are registered with the environment. -/
def Registers (env : Pointer) (event : Event Call.Answer) : Prop :=
  (∃ function, event = ⟨.registerFrameworkNatives function env, jniOk⟩) ∨
    ∃ function, event = ⟨.registerFrameworkNativesLegacy function env null, jniOk⟩

/-- The function of the newer systems registers exactly if it answers `JNI_OK`. -/
theorem registers_iff {function env other : Pointer} {result : Int32} :
    Registers other ⟨.registerFrameworkNatives function env, result⟩ ↔
      env = other ∧ result = jniOk := by
  constructor
  · rintro (⟨function, same⟩ | ⟨function, same⟩)
    · cases same
      exact ⟨rfl, rfl⟩
    · cases same
  · rintro ⟨rfl, rfl⟩
    exact .inl ⟨function, rfl⟩

/-- The function of the older systems does so too. -/
theorem registersLegacy_iff {function env other : Pointer} {result : Int32} :
    Registers other ⟨.registerFrameworkNativesLegacy function env null, result⟩ ↔
      env = other ∧ result = jniOk := by
  constructor
  · rintro (⟨function, same⟩ | ⟨function, same⟩)
    · cases same
    · cases same
      exact ⟨rfl, rfl⟩
  · rintro ⟨rfl, rfl⟩
    exact .inr ⟨function, rfl⟩

def Call.isLookup : Call → Bool
  | .dlopen .. | .dlsym .. | .dlerror => true
  | _ => false

def Call.isInvocation : Call → Bool
  | .invocationCreate .. | .invocationInit .. => true
  | _ => false

def Call.isCreation : Call → Bool
  | .createJavaVm .. => true
  | _ => false

def Call.isRegistration : Call → Bool
  | .registerFrameworkNatives .. | .registerFrameworkNativesLegacy .. => true
  | _ => false

/-- No call of this kind has been made. -/
def Without (kind : Call → Bool) (past : Past) : Prop :=
  ∀ event ∈ past, kind event.call = false

/-- The last call was a lookup that failed. -/
def JustFailed (past : Past) : Prop :=
  ∃ before, (∃ name flags, past = before ++ [⟨.dlopen name flags, null⟩]) ∨
    ∃ handle name, past = before ++ [⟨.dlsym handle name, null⟩]

/-- What the source sees to before it makes a call. -/
def Allowed (past : Past) : Call → Prop
  | .dlopen library _ =>
      library ∈ runtimes → Unavailable past ∧ Without Call.isInvocation past ∧ NoVm past
  | .dlsym handle _ => ∃ library, Opened past handle library
  | .dlerror => JustFailed past
  | .invocationCreate function => Found past function "libnativehelper.so" "JniInvocationCreate"
  | .invocationInit function invocation _ =>
      Found past function "libnativehelper.so" "JniInvocationInit" ∧ invocation ≠ null ∧
        ∃ create, ⟨.invocationCreate create, invocation⟩ ∈ past
  | .createJavaVm function arguments =>
      arguments.version = jniVersion1_6 ∧ NoVm past ∧
        (∃ handle, Opened past handle "libandroid_runtime.so") ∧
        ((∃ runtime ∈ runtimes, Found past function runtime "JNI_CreateJavaVM" ∧
            Without Call.isInvocation past) ∨
          Found past function "libnativehelper.so" "JNI_CreateJavaVM" ∧
            ∃ (init invocation : Pointer) (result : Int32), result ≠ 0 ∧
              ⟨.invocationInit init invocation null, result⟩ ∈ past)
  | .registerFrameworkNatives function env =>
      Found past function "libandroid_runtime.so" "registerFrameworkNatives" ∧
        (∃ vm, Made past vm env) ∧ Without Call.isRegistration past
  | .registerFrameworkNativesLegacy function env _ =>
      Found past function "libandroid_runtime.so"
          "Java_com_android_internal_util_WithFramework_registerNatives" ∧
        Lacks past "libandroid_runtime.so" "registerFrameworkNatives" ∧
        (∃ vm, Made past vm env) ∧ Without Call.isRegistration past

def NoNatives (past : Past) : Prop :=
  ∀ event ∈ past, ∀ env, ¬ Registers env event

/-- A machine that is returned was made and has its natives; otherwise there are none. -/
def Booted : Except String Pointer → Past → Prop
  | .ok vm, past => ∃ before event env, past = before ++ [event] ∧ Made before vm env ∧
      Registers env event
  | .error _, past => NoNatives past

/-! ### Lookups -/

/-- Nothing but lookups in between. -/
def Looked (past later : Past) : Prop :=
  ∃ events, later = past ++ events ∧ ∀ event ∈ events, event.call.isLookup = true

section Looked

variable {past middle later : Past}

/-- No event at all is only lookups. -/
theorem Looked.refl (past : Past) : Looked past past :=
  ⟨[], (List.append_nil past).symm, fun _ member => absurd member List.not_mem_nil⟩

/-- Lookups after lookups are lookups. -/
theorem Looked.trans (first : Looked past middle) (second : Looked middle later) :
    Looked past later := by
  obtain ⟨events, rfl, lookups⟩ := first
  obtain ⟨others, rfl, further⟩ := second
  exact ⟨events ++ others, List.append_assoc .., fun event member =>
    (List.mem_append.mp member).elim (lookups event) (further event)⟩

/-- Nothing that has happened is undone by them. -/
theorem Looked.subset (looked : Looked past later) : past ⊆ later := by
  obtain ⟨events, rfl, -⟩ := looked
  exact List.subset_append_left past events

/-- Whatever is no lookup was there before. -/
theorem Looked.mem (looked : Looked past later) {event : Event Call.Answer}
    (member : event ∈ later) (other : event.call.isLookup = false) : event ∈ past := by
  obtain ⟨events, rfl, lookups⟩ := looked
  rcases List.mem_append.mp member with here | added
  · exact here
  · rw [lookups event added] at other
    cases other

/-- A lookup makes no machine. -/
theorem Looked.noVm (looked : Looked past later) (noVm : NoVm past) : NoVm later := by
  rintro vm env ⟨vmSet, envSet, function, arguments, member⟩
  exact noVm vm env ⟨vmSet, envSet, function, arguments, looked.mem member rfl⟩

/-- Lookups make no call of a kind that no lookup is of. -/
theorem Looked.without {kind : Call → Bool} (looked : Looked past later)
    (others : ∀ call, call.isLookup = true → kind call = false) (without : Without kind past) :
    Without kind later := by
  intro event member
  cases lookup : event.call.isLookup with
  | true => exact others event.call lookup
  | false => exact without event (looked.mem member lookup)

end Looked

/-- Lookups do not call the helper library. -/
theorem lookup_no_invocation (call : Call) (lookup : call.isLookup = true) :
    call.isInvocation = false := by
  cases call <;> first | rfl | cases lookup

/-- Lookups do not register natives. -/
theorem lookup_no_registration (call : Call) (lookup : call.isLookup = true) :
    call.isRegistration = false := by
  cases call <;> first | rfl | cases lookup

section Growing

variable {past later : Past} (within : past ⊆ later)
include within

/-- An opened library stays open: the source never closes one. -/
theorem Opened.mono {handle : Pointer} {library : String} (opened : Opened past handle library) :
    Opened later handle library :=
  ⟨opened.1, opened.2.imp fun _ member => within member⟩

/-- So a symbol found in it stays found. -/
theorem Found.mono {function : Pointer} {library name : String}
    (found : Found past function library name) : Found later function library name :=
  ⟨found.1, found.2.imp fun _ found => ⟨found.1.mono within, within found.2⟩⟩

/-- A symbol that an open library lacks stays missing. -/
theorem Lacks.mono {library name : String} (lacks : Lacks past library name) :
    Lacks later library name :=
  lacks.imp fun _ lacks => ⟨lacks.1.mono within, within lacks.2⟩

/-- The helper library that was unavailable is not asked for again. -/
theorem Unavailable.mono (unavailable : Unavailable past) : Unavailable later :=
  unavailable.imp (fun absent => absent.imp fun _ member => within member)
    fun lacking => lacking.imp fun _ lacking => ⟨lacking.1, lacking.2.mono within⟩

/-- A machine that was made remains made. -/
theorem Made.mono {vm env : Pointer} (made : Made past vm env) : Made later vm env := by
  obtain ⟨vmSet, envSet, function, arguments, member⟩ := made
  exact ⟨vmSet, envSet, function, arguments, within member⟩

end Growing

section Lookups

variable {past : Past} {library : String} {flags : Int32} {handle : Pointer}
  (debug : String → String) (name : String)

/-- `CString::new` fails only on a null character, and no name in the source has one. -/
theorem ensures_cString {allowed : Past → Call → Prop} {text message : String}
    {post : Except String Unit → Past → Prop} (clean : '\x00' ∉ text.toList) :
    Program.Ensures allowed post (cString text message).run past ↔ post (.ok ()) past := by
  rw [cString, if_neg clean]
  exact Fallible.ensures_pure

/-- `dl_error` asks once, and has a text of its own where nothing is answered. -/
theorem ensures_dlError {allowed : Past → Call → Prop} {post : String → Past → Prop} :
    dlError.Ensures allowed post past ↔
      allowed past .dlerror ∧ ∀ error : Option String,
        post (error.getD "unknown dl error") (past ++ [⟨.dlerror, error⟩]) :=
  Iff.rfl

/-- Either the library is open, or `dlopen` has answered null. -/
theorem openLibrary_ensures (clean : '\x00' ∉ name.toList)
    (permitted : Allowed past (.dlopen name flags)) :
    (openLibrary debug name flags).run.Ensures Allowed (fun outcome later =>
      Looked past later ∧ match outcome with
        | .ok handle => Opened later handle name
        | .error _ => ⟨.dlopen name flags, null⟩ ∈ later) past := by
  rw [openLibrary, Fallible.ensures_bind, ensures_cString clean]
  dsimp only
  rw [Fallible.ensures_lift_bind]
  refine Program.ensures_request.mpr ⟨permitted, fun handle => ?_⟩
  by_cases failed : handle = null
  · subst failed
    rw [if_pos rfl, Fallible.ensures_lift_bind, ensures_dlError]
    refine ⟨⟨past, .inl ⟨name, flags, rfl⟩⟩, fun error => ?_⟩
    refine ⟨⟨_, List.append_assoc .., ?_⟩, by simp⟩
    simp [Call.isLookup]
  · rw [if_neg failed]
    refine ⟨⟨_, rfl, ?_⟩, failed, flags, by simp⟩
    simp [Call.isLookup]

/-- Either the symbol is found in the library that was opened, or that library lacks it. -/
theorem symbol_ensures (clean : '\x00' ∉ name.toList) (opened : Opened past handle library) :
    (symbol debug handle name).run.Ensures Allowed (fun outcome later =>
      Looked past later ∧ match outcome with
        | .ok value => Found later value library name
        | .error _ => Lacks later library name) past := by
  rw [symbol, Fallible.ensures_bind, ensures_cString clean]
  dsimp only
  rw [Fallible.ensures_lift_bind]
  refine Program.ensures_request.mpr ⟨⟨library, opened⟩, fun value => ?_⟩
  by_cases failed : value = null
  · subst failed
    rw [if_pos rfl, Fallible.ensures_lift_bind, ensures_dlError]
    refine ⟨⟨past, .inr ⟨handle, name, rfl⟩⟩, fun error => ?_⟩
    refine ⟨⟨_, List.append_assoc .., ?_⟩, handle, opened.mono (by simp), by simp⟩
    simp [Call.isLookup]
  · rw [if_neg failed]
    refine ⟨⟨_, rfl, ?_⟩, failed, handle, opened.mono (by simp), by simp⟩
    simp [Call.isLookup]

/-- The optional forms know as well why there is nothing. -/
theorem optionalLibrary_ensures (clean : '\x00' ∉ name.toList)
    (permitted : Allowed past (.dlopen name flags)) :
    (optionalLibrary debug name flags).Ensures Allowed (fun answer later =>
      Looked past later ∧ match answer with
        | some handle => Opened later handle name
        | none => ⟨.dlopen name flags, null⟩ ∈ later) past := by
  rw [optionalLibrary, Program.ensures_bind]
  refine (openLibrary_ensures debug name clean permitted).mono fun outcome later met => ?_
  cases outcome with
  | ok handle => exact met
  | error error => exact met

/-- The same where a missing symbol is no failure. -/
theorem optionalSymbol_ensures (clean : '\x00' ∉ name.toList)
    (opened : Opened past handle library) :
    (optionalSymbol debug handle name).Ensures Allowed (fun answer later =>
      Looked past later ∧ match answer with
        | some value => Found later value library name
        | none => Lacks later library name) past := by
  rw [optionalSymbol, Program.ensures_bind]
  refine (symbol_ensures debug name clean opened).mono fun outcome later met => ?_
  cases outcome with
  | ok value => exact met
  | error error => exact met

end Lookups

/-! ### Virtual machines -/

/-- A machine is what a program returns, or there is none. -/
def Yields : Except String (Pointer × Pointer) → Past → Prop
  | .ok vm, past => Made past vm.1 vm.2
  | .error _, past => NoVm past

section Machines

variable {debug : String → String} {past later : Past}

/-- Calls of other kinds are no calls of this kind. -/
theorem Without.append {kind : Call → Bool} {events : List (Event Call.Answer)}
    (without : Without kind past) (others : ∀ event ∈ events, kind event.call = false) :
    Without kind (past ++ events) := by
  intro event member
  exact (List.mem_append.mp member).elim (without event) (others event)

/-- `invoke_create_vm` makes the one call, and returns a machine exactly if that call has made
one. -/
theorem invokeCreateVm_ensures {createVm : Pointer}
    (permitted : Allowed past (.createJavaVm createVm initArguments)) :
    (invokeCreateVm createVm).run.Ensures Allowed (fun outcome later =>
      (∃ created, later = past ++ [⟨.createJavaVm createVm initArguments, created⟩]) ∧
        Yields outcome later) past := by
  rw [invokeCreateVm, Fallible.ensures_lift_bind]
  refine Program.ensures_request.mpr ⟨permitted, fun created => ?_⟩
  have refused (fails : created.status = jniOk → created.vm ≠ null → created.env = null) :
      NoVm (past ++ [⟨.createJavaVm createVm initArguments, created⟩]) := by
    rintro vm env ⟨vmSet, envSet, function, arguments, member⟩
    rcases List.mem_append.mp member with earlier | last
    · exact permitted.2.1 vm env ⟨vmSet, envSet, function, arguments, earlier⟩
    · rw [List.mem_singleton] at last
      cases last
      exact envSet (fails rfl vmSet)
  dsimp only
  split
  · rename_i failed
    exact ⟨⟨created, rfl⟩, refused fun ok => absurd ok failed⟩
  split
  · rename_i failed
    exact ⟨⟨created, rfl⟩, refused fun _ some => absurd failed some⟩
  split
  · rename_i failed
    exact ⟨⟨created, rfl⟩, refused fun _ _ => failed⟩
  · rename_i ok vmSet envSet
    have answered : created = ⟨jniOk, created.vm, created.env⟩ := by
      rw [← Decidable.not_not.mp ok]
    refine ⟨⟨created, rfl⟩, vmSet, envSet, createVm, initArguments, List.mem_append_right past ?_⟩
    rw [List.mem_singleton, ← answered]

/-- An attempt from a history without a machine. -/
structure Attempted (past : Past) (outcome : Except String (Pointer × Pointer))
    (later : Past) : Prop where
  grows : past ⊆ later
  unregistered : Without Call.isRegistration later
  yields : Yields outcome later

/-- What holds on the way to a machine. -/
structure Prepared (start past : Past) : Prop where
  grows : start ⊆ past
  runtime : ∃ handle, Opened past handle "libandroid_runtime.so"
  unregistered : Without Call.isRegistration past
  noVm : NoVm past

/-- Lookups leave everything prepared. -/
theorem Prepared.looked {start : Past} (prepared : Prepared start past)
    (looked : Looked past later) : Prepared start later where
  grows := List.Subset.trans prepared.grows looked.subset
  runtime := prepared.runtime.imp fun _ opened => opened.mono looked.subset
  unregistered := looked.without lookup_no_registration prepared.unregistered
  noVm := looked.noVm prepared.noVm

/-- So does a call that neither creates a machine nor registers natives. -/
theorem Prepared.snoc {start : Past} (prepared : Prepared start past)
    (event : Event Call.Answer) (registers : event.call.isRegistration = false)
    (creates : event.call.isCreation = false) :
    Prepared start (past ++ [event]) where
  grows := List.Subset.trans prepared.grows (List.subset_append_left past [event])
  runtime := prepared.runtime.imp fun _ opened =>
    opened.mono (List.subset_append_left past [event])
  unregistered := prepared.unregistered.append (List.forall_mem_singleton.mpr registers)
  noVm := by
    rintro vm env ⟨vmSet, envSet, function, arguments, member⟩
    rcases List.mem_append.mp member with earlier | last
    · exact prepared.noVm vm env ⟨vmSet, envSet, function, arguments, earlier⟩
    · rw [List.mem_singleton] at last
      cases last
      cases creates

/-- An attempt that ends early. -/
theorem Prepared.failed {start : Past} {error : String} (prepared : Prepared start past) :
    Attempted start (.error error) past where
  grows := prepared.grows
  unregistered := prepared.unregistered
  yields := prepared.noVm

/-- From a prepared state the attempt is made once, and its outcome is kept with what was
prepared. -/
theorem Prepared.invoked {start : Past} {createVm : Pointer} (prepared : Prepared start past)
    (permitted : Allowed past (.createJavaVm createVm initArguments)) :
    (invokeCreateVm createVm).run.Ensures Allowed (fun outcome later =>
      (∃ created, later = past ++ [⟨.createJavaVm createVm initArguments, created⟩]) ∧
        Attempted start outcome later) past := by
  refine (invokeCreateVm_ensures permitted).mono fun outcome later met => ?_
  obtain ⟨⟨created, rfl⟩, yields⟩ := met
  exact ⟨⟨created, rfl⟩, {
    grows := List.Subset.trans prepared.grows (List.subset_append_left _ _)
    unregistered := prepared.unregistered.append (List.forall_mem_singleton.mpr rfl)
    yields := yields }⟩

/-- The helper is created, initialised and only then asked for a machine; each failure leaves
none. -/
theorem createVmWithNativehelper_ensures {start : Past} {nativehelper : Pointer}
    (prepared : Prepared start past) (opened : Opened past nativehelper "libnativehelper.so") :
    (createVmWithNativehelper debug nativehelper).run.Ensures Allowed (Attempted start) past := by
  rw [createVmWithNativehelper, Fallible.ensures_bind]
  refine (symbol_ensures debug "JniInvocationCreate" (by decide) opened).mono
    fun outcome first met => ?_
  obtain ⟨looked, met⟩ := met
  replace prepared := prepared.looked looked
  replace opened := opened.mono looked.subset
  cases outcome with
  | error error => exact prepared.failed
  | ok createInvocation =>
  have create : Found first createInvocation "libnativehelper.so" "JniInvocationCreate" := met
  dsimp only
  rw [Fallible.ensures_bind]
  refine (symbol_ensures debug "JniInvocationInit" (by decide) opened).mono
    fun outcome second met => ?_
  obtain ⟨looked, met⟩ := met
  replace prepared := prepared.looked looked
  replace opened := opened.mono looked.subset
  replace create := create.mono looked.subset
  cases outcome with
  | error error => exact prepared.failed
  | ok initInvocation =>
  have init : Found second initInvocation "libnativehelper.so" "JniInvocationInit" := met
  dsimp only
  rw [Fallible.ensures_lift_bind]
  refine Program.ensures_request.mpr ⟨create, fun invocation => ?_⟩
  have added := List.subset_append_left second
    [(⟨.invocationCreate createInvocation, invocation⟩ : Event Call.Answer)]
  replace prepared := prepared.snoc ⟨.invocationCreate createInvocation, invocation⟩ rfl rfl
  replace opened := opened.mono added
  replace init := init.mono added
  split
  · exact prepared.failed
  rename_i invocationSet
  rw [Fallible.ensures_lift_bind]
  refine Program.ensures_request.mpr
    ⟨⟨init, invocationSet, createInvocation, by simp⟩, fun initialized => ?_⟩
  replace added := List.subset_append_left
    (second ++ [(⟨.invocationCreate createInvocation, invocation⟩ : Event Call.Answer)])
    [(⟨.invocationInit initInvocation invocation null, initialized⟩ : Event Call.Answer)]
  replace prepared := prepared.snoc ⟨.invocationInit initInvocation invocation null, initialized⟩
    rfl rfl
  replace opened := opened.mono added
  split
  · exact prepared.failed
  rename_i initializedSet
  rw [Fallible.ensures_bind]
  refine (symbol_ensures debug "JNI_CreateJavaVM" (by decide) opened).mono
    fun outcome third met => ?_
  obtain ⟨looked, met⟩ := met
  replace prepared := prepared.looked looked
  cases outcome with
  | error error => exact prepared.failed
  | ok createVm =>
  have found : Found third createVm "libnativehelper.so" "JNI_CreateJavaVM" := met
  refine (prepared.invoked ⟨rfl, prepared.noVm, prepared.runtime, .inr ⟨found, ?_⟩⟩).mono
    fun outcome later met => met.2
  exact ⟨initInvocation, invocation, initialized, initializedSet, looked.subset (by simp)⟩

/-- An old runtime is opened and asked once, without any call to the helper. -/
theorem createVmFromRuntime_ensures {start : Past} {runtime : String}
    (prepared : Prepared start past) (unavailable : Unavailable past)
    (uninvoked : Without Call.isInvocation past) (listed : runtime ∈ runtimes) :
    (createVmFromRuntime debug runtime).run.Ensures Allowed (fun outcome later =>
      Attempted start outcome later ∧ past ⊆ later ∧ Without Call.isInvocation later) past := by
  have clean : ∀ runtime ∈ runtimes, '\x00' ∉ runtime.toList := by decide
  rw [createVmFromRuntime, Fallible.ensures_adapt_bind]
  refine (openLibrary_ensures debug runtime (clean runtime listed)
    fun _ => ⟨unavailable, uninvoked, prepared.noVm⟩).mono fun outcome first met => ?_
  obtain ⟨looked, met⟩ := met
  have within := looked.subset
  replace prepared := prepared.looked looked
  replace uninvoked := looked.without lookup_no_invocation uninvoked
  cases outcome with
  | error error => exact ⟨prepared.failed, within, uninvoked⟩
  | ok handle =>
  have opened : Opened first handle runtime := met
  dsimp only
  rw [Fallible.ensures_adapt_bind]
  refine (symbol_ensures debug "JNI_CreateJavaVM" (by decide) opened).mono
    fun outcome second met => ?_
  obtain ⟨looked, met⟩ := met
  replace within := List.Subset.trans within looked.subset
  replace prepared := prepared.looked looked
  replace uninvoked := looked.without lookup_no_invocation uninvoked
  cases outcome with
  | error error => exact ⟨prepared.failed, within, uninvoked⟩
  | ok createVm =>
  have found : Found second createVm runtime "JNI_CreateJavaVM" := met
  refine (prepared.invoked ⟨rfl, prepared.noVm, prepared.runtime,
    .inl ⟨runtime, listed, found, uninvoked⟩⟩).mono fun outcome later met => ?_
  obtain ⟨⟨created, rfl⟩, attempted⟩ := met
  exact ⟨attempted, List.Subset.trans within (List.subset_append_left _ _),
    uninvoked.append (List.forall_mem_singleton.mpr rfl)⟩

/-- The next runtime is tried from where the last one has failed. -/
theorem createVmFromRuntimes_ensures {start : Past} {names : List String} {errors : List String}
    (prepared : Prepared start past) (unavailable : Unavailable past)
    (uninvoked : Without Call.isInvocation past) (listed : ∀ name ∈ names, name ∈ runtimes) :
    (createVmFromRuntimes debug errors names).run.Ensures Allowed (Attempted start) past := by
  induction names generalizing past errors with
  | nil => exact prepared.failed
  | cons runtime rest ih =>
      rw [createVmFromRuntimes, Fallible.ensures_bind, Fallible.ensures_attempt]
      refine (createVmFromRuntime_ensures prepared unavailable uninvoked
        (listed runtime (List.mem_cons_self ..))).mono fun outcome later met => ?_
      obtain ⟨attempted, within, uninvoked⟩ := met
      cases outcome with
      | ok vm => exact attempted
      | error error =>
          refine ih ?_ (unavailable.mono within) uninvoked
            fun name member => listed name (List.mem_cons_of_mem _ member)
          exact {
            grows := attempted.grows
            runtime := prepared.runtime.imp fun _ opened => opened.mono within
            unregistered := attempted.unregistered
            noVm := attempted.yields }

/-- The new way gives a machine, fails, or is not there. -/
def Helped (start : Past) : Except String (Option (Pointer × Pointer)) → Past → Prop
  | .ok (some vm), past => Attempted start (.ok vm) past
  | .ok none, past =>
      Prepared start past ∧ Unavailable past ∧ Without Call.isInvocation past
  | .error error, past => Attempted start (.error error) past

/-- The parts of the new way are looked for. -/
structure Looking (start past : Past) (nativehelper : Pointer) : Prop where
  prepared : Prepared start past
  uninvoked : Without Call.isInvocation past
  opened : Opened past nativehelper "libnativehelper.so"

/-- Asking for one more part of the helper keeps what was found, and remembers a part it lacks. -/
theorem Looking.symbol {start : Past} {nativehelper : Pointer}
    (looking : Looking start past nativehelper) (name : String) (clean : '\x00' ∉ name.toList) :
    (optionalSymbol debug nativehelper name).Ensures Allowed (fun answer later =>
      Looking start later nativehelper ∧ past ⊆ later ∧
        (¬ answer.isSome → Lacks later "libnativehelper.so" name)) past := by
  refine (optionalSymbol_ensures debug name clean looking.opened).mono fun answer later met => ?_
  obtain ⟨looked, met⟩ := met
  refine ⟨?_, looked.subset, ?_⟩
  · exact {
      prepared := looking.prepared.looked looked
      uninvoked := looked.without lookup_no_invocation looking.uninvoked
      opened := looking.opened.mono looked.subset }
  · cases answer with
    | none => exact fun _ => met
    | some value => exact fun absent => absurd rfl absent

/-- The new way is taken if every part of the helper is there, and is known to be unavailable
otherwise. -/
theorem tryCreateVmWithNativehelper_ensures {start : Past} (prepared : Prepared start past)
    (uninvoked : Without Call.isInvocation past) :
    (tryCreateVmWithNativehelper debug).run.Ensures Allowed (Helped start) past := by
  rw [tryCreateVmWithNativehelper, Fallible.ensures_lift_bind]
  refine (optionalLibrary_ensures debug "libnativehelper.so" (by decide)
    fun listed => absurd listed (by decide)).mono fun library first met => ?_
  obtain ⟨looked, met⟩ := met
  cases library with
  | none =>
      exact ⟨prepared.looked looked, .inl ⟨_, met⟩,
        looked.without lookup_no_invocation uninvoked⟩
  | some nativehelper =>
  have looking : Looking start first nativehelper :=
    ⟨prepared.looked looked, looked.without lookup_no_invocation uninvoked, met⟩
  dsimp only
  rw [Fallible.ensures_lift_bind]
  refine (looking.symbol "JniInvocationCreate" (by decide)).mono fun create second met => ?_
  obtain ⟨looking, -, noCreate⟩ := met
  rw [Fallible.ensures_lift_bind]
  refine (looking.symbol "JniInvocationInit" (by decide)).mono fun init third met => ?_
  obtain ⟨looking, within, noInit⟩ := met
  replace noCreate := fun absent => (noCreate absent).mono within
  rw [Fallible.ensures_lift_bind]
  refine (looking.symbol "JNI_CreateJavaVM" (by decide)).mono fun createVm fourth met => ?_
  obtain ⟨looking, within, noCreateVm⟩ := met
  replace noCreate := fun absent => (noCreate absent).mono within
  replace noInit := fun absent => (noInit absent).mono within
  split
  · rename_i missing
    refine ⟨looking.prepared, .inr ?_, looking.uninvoked⟩
    rcases missing with absent | absent | absent
    · exact ⟨_, by simp, noCreate absent⟩
    · exact ⟨_, by simp, noInit absent⟩
    · exact ⟨_, by simp, noCreateVm absent⟩
  · change Program.Ensures _ _ (createVmWithNativehelper debug nativehelper >>= fun vm =>
      pure (some vm)).run _
    rw [Fallible.ensures_bind]
    refine (createVmWithNativehelper_ensures looking.prepared looking.opened).mono
      fun outcome later met => ?_
    cases outcome with
    | ok vm => exact met
    | error error => exact met

/-- Natives are registered with the machine, last of all, or not at all. -/
def Registered (vm : Pointer) : Except String Unit → Past → Prop
  | .ok (), past => Booted (.ok vm) past
  | .error error, past => Booted (.error error) past

/-- Without registrations there are no natives. -/
theorem Without.noNatives (unregistered : Without Call.isRegistration past) :
    NoNatives past := by
  rintro event member env (⟨function, rfl⟩ | ⟨function, rfl⟩)
  · cases unregistered _ member
  · cases unregistered _ member

/-- A registration that fails leaves no natives. -/
theorem Without.noNatives_snoc {event : Event Call.Answer}
    (unregistered : Without Call.isRegistration past) (fails : ∀ env, ¬ Registers env event) :
    NoNatives (past ++ [event]) := by
  intro other member env
  rcases List.mem_append.mp member with earlier | last
  · exact unregistered.noNatives other earlier env
  · rw [List.mem_singleton] at last
    exact last ▸ fails env

/-- The old registration is tried only where the new one is missing, and success is the last
event. -/
theorem registerFrameworkNatives_ensures {androidRuntime vm env : Pointer}
    (opened : Opened past androidRuntime "libandroid_runtime.so") (made : Made past vm env)
    (unregistered : Without Call.isRegistration past) :
    (registerFrameworkNatives debug androidRuntime env).run.Ensures Allowed (Registered vm)
      past := by
  rw [registerFrameworkNatives, Fallible.ensures_lift_bind]
  refine (optionalSymbol_ensures debug "registerFrameworkNatives" (by decide) opened).mono
    fun register first met => ?_
  obtain ⟨looked, met⟩ := met
  replace opened := opened.mono looked.subset
  replace made := made.mono looked.subset
  replace unregistered := looked.without lookup_no_registration unregistered
  cases register with
  | some register =>
      have found : Found first register "libandroid_runtime.so" "registerFrameworkNatives" := met
      dsimp only
      rw [Fallible.ensures_lift_bind]
      refine Program.ensures_request.mpr ⟨⟨found, ⟨vm, made⟩, unregistered⟩, fun result => ?_⟩
      split
      · rename_i failed
        exact unregistered.noNatives_snoc fun other registers =>
          failed (registers_iff.mp registers).2
      · rename_i succeeded
        exact ⟨first, _, env, rfl, made, registers_iff.mpr ⟨rfl, Decidable.not_not.mp succeeded⟩⟩
  | none =>
      have lacks : Lacks first "libandroid_runtime.so" "registerFrameworkNatives" := met
      dsimp only
      rw [Fallible.ensures_lift_bind]
      refine (optionalSymbol_ensures debug
        "Java_com_android_internal_util_WithFramework_registerNatives" (by decide) opened).mono
        fun register second met => ?_
      obtain ⟨looked, met⟩ := met
      replace made := made.mono looked.subset
      replace lacks := lacks.mono looked.subset
      replace unregistered := looked.without lookup_no_registration unregistered
      cases register with
      | none => exact unregistered.noNatives
      | some register =>
          have found : Found second register "libandroid_runtime.so"
              "Java_com_android_internal_util_WithFramework_registerNatives" := met
          dsimp only
          rw [Fallible.ensures_lift_bind]
          refine Program.ensures_request.mpr
            ⟨⟨found, lacks, ⟨vm, made⟩, unregistered⟩, fun result => ?_⟩
          split
          · rename_i failed
            exact unregistered.noNatives_snoc fun other registers =>
              failed (registersLegacy_iff.mp registers).2
          · rename_i succeeded
            exact ⟨second, _, env, rfl, made,
              registersLegacy_iff.mpr ⟨rfl, Decidable.not_not.mp succeeded⟩⟩

end Machines

/-- The whole boot keeps every precondition and ends with a machine that has its natives, or with
none registered. -/
theorem createAndroidVm_ensures (debug : String → String) :
    (createAndroidVm debug).run.Ensures Allowed Booted [] := by
  have nothing (past : Past) (looked : Looked [] past) (kind : Call → Bool)
      (others : ∀ call, call.isLookup = true → kind call = false) : Without kind past :=
    looked.without others fun event member => absurd member List.not_mem_nil
  rw [createAndroidVm, Fallible.ensures_lift_bind]
  refine (optionalLibrary_ensures debug "libsigchain.so" (by decide)
    fun listed => absurd listed (by decide)).mono fun chain first met => ?_
  obtain ⟨start, -⟩ := met
  rw [Fallible.ensures_adapt_bind]
  refine (openLibrary_ensures debug "libandroid_runtime.so" (by decide)
    fun listed => absurd listed (by decide)).mono fun outcome second met => ?_
  obtain ⟨looked, met⟩ := met
  replace start := start.trans looked
  have unregistered := nothing second start _ lookup_no_registration
  cases outcome with
  | error error => exact unregistered.noNatives
  | ok androidRuntime =>
  have opened : Opened second androidRuntime "libandroid_runtime.so" := met
  have prepared : Prepared second second := {
    grows := List.Subset.refl second
    runtime := ⟨androidRuntime, opened⟩
    unregistered := unregistered
    noVm := start.noVm (by
      rintro vm env ⟨-, -, function, arguments, member⟩
      cases member) }
  dsimp only
  rw [Fallible.ensures_bind, Fallible.ensures_attempt]
  refine (tryCreateVmWithNativehelper_ensures prepared
    (nothing second start _ lookup_no_invocation)).mono fun outcome third met => ?_
  have finish (vm : Pointer × Pointer) (later : Past)
      (attempted : Attempted second (.ok vm) later) :
      Program.Ensures Allowed Booted
        (registerFrameworkNatives debug androidRuntime vm.2 >>= fun _ => pure vm.1).run later := by
    rw [Fallible.ensures_bind]
    refine (registerFrameworkNatives_ensures (opened.mono attempted.grows) attempted.yields
      attempted.unregistered).mono fun outcome last met => ?_
    cases outcome with
    | ok _ => exact met
    | error error => exact met
  cases outcome with
  | error error =>
      have attempted : Attempted second (.error error) third := met
      exact attempted.unregistered.noNatives
  | ok answer =>
      cases answer with
      | some vm => exact finish vm third met
      | none =>
          obtain ⟨prepared, unavailable, uninvoked⟩ := met
          dsimp only
          rw [Fallible.ensures_bind]
          refine (createVmFromRuntimes_ensures prepared unavailable uninvoked
            fun name member => member).mono fun outcome later attempted => ?_
          cases outcome with
          | ok vm => exact finish vm later attempted
          | error error => exact attempted.unregistered.noNatives

/-- On every platform, whatever it answers, the calls of a run are allowed in their order, so that
none is made to create a machine after one was `Made`, and a virtual machine is returned exactly
when the natives are registered with it at the end. -/
theorem createAndroidVm_safe (debug : String → String) (platform : Platform Call.Answer) :
    let result := (createAndroidVm debug).run.run platform []
    Legal Allowed result.2 ∧ Booted result.1 result.2 :=
  Program.run_of_ensures platform (createAndroidVm_ensures debug) legal_nil

end Arisa.Android.Art
