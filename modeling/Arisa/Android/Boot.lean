import Arisa.Android.Art

/-!
# The devices that boot

A device answers a call always in the same way. `createAndroidVm_boots` says which machine
`create_android_vm` returns on it, and when it returns one.
-/

namespace Arisa.Android.Art

open Arisa.Semantics.Interaction

abbrev Device := (call : Call) → call.Answer

namespace Device

variable (device : Device)

/-- An address that is not null. -/
def proper (pointer : Pointer) : Option Pointer :=
  if pointer = null then none else some pointer

def library (name : String) : Option Pointer :=
  proper (device (.dlopen name (rtldNow ||| rtldGlobal)))

def symbol (handle : Pointer) (name : String) : Option Pointer :=
  proper (device (.dlsym handle name))

/-- The machine that a `JNI_CreateJavaVM` makes. -/
def Creates (createVm : Pointer) (vm : Pointer × Pointer) : Prop :=
  device (.createJavaVm createVm initArguments) = ⟨jniOk, vm.1, vm.2⟩ ∧
    vm.1 ≠ null ∧ vm.2 ≠ null

/-- The invocation API with all its parts: the handle of the library and its three functions. -/
structure Helper where
  create : Pointer
  init : Pointer
  createVm : Pointer

def helper : Option Helper := do
  let handle ← device.library "libnativehelper.so"
  let create ← device.symbol handle "JniInvocationCreate"
  let init ← device.symbol handle "JniInvocationInit"
  let createVm ← device.symbol handle "JNI_CreateJavaVM"
  return ⟨create, init, createVm⟩

/-- A machine by the invocation API. -/
def Helper.Gives (helper : Helper) (vm : Pointer × Pointer) : Prop :=
  let invocation : Pointer := device (.invocationCreate helper.create)
  let initialized : Int32 := device (.invocationInit helper.init invocation null)
  invocation ≠ null ∧ initialized ≠ 0 ∧ device.Creates helper.createVm vm

/-- A machine by an older runtime. -/
def Provides (runtime : String) (vm : Pointer × Pointer) : Prop :=
  ∃ handle createVm, device.library runtime = some handle ∧
    device.symbol handle "JNI_CreateJavaVM" = some createVm ∧ device.Creates createVm vm

/-- The device comes to this machine: by the invocation API if it has one, and otherwise by
the first of the runtimes that provides one. -/
def Offers (vm : Pointer × Pointer) : Prop :=
  match device.helper with
  | some helper => helper.Gives device vm
  | none => device.Provides "libart.so" vm ∨
      (∀ other, ¬ device.Provides "libart.so" other) ∧ device.Provides "libdvm.so" vm

/-- The natives can be registered, by the old function only without the new one. -/
def Registers (runtime env : Pointer) : Prop :=
  match device.symbol runtime "registerFrameworkNatives" with
  | some register => device (.registerFrameworkNatives register env) = jniOk
  | none => ∃ register,
      device.symbol runtime "Java_com_android_internal_util_WithFramework_registerNatives" =
        some register ∧ device (.registerFrameworkNativesLegacy register env null) = jniOk

end Device

/-! ### What each function returns -/

section Eval

/-- An error is no machine. -/
theorem not_returned {α : Type} {error : String} {value : α} {holds : Prop}
    (returned : (.error error : Except String α) = .ok value) : holds := by
  cases returned

variable {name : String} {handle : Pointer} (device : Device)

/-- No name in the source has a null character, so the conversion succeeds. -/
theorem eval_cString {text message : String} (clean : '\x00' ∉ text.toList) :
    (cString text message).run.eval device = .ok () := by
  rw [cString, if_neg clean]
  rfl

/-- What is found, or an error. -/
def Answers {α : Type} (outcome : Except String α) (found : Option α) : Prop :=
  outcome.toOption = found

/-- An outcome that answers is the value found, or a failure where there is none. -/
theorem Answers.cases {α : Type} {outcome : Except String α} {found : Option α}
    (answers : Answers outcome found) :
    (∃ value, outcome = .ok value ∧ found = some value) ∨
      ∃ error, outcome = .error error ∧ found = none := by
  subst answers
  cases outcome with
  | ok value => exact .inl ⟨value, rfl, rfl⟩
  | error error => exact .inr ⟨error, rfl, rfl⟩

/-- What is found is returned. -/
theorem Answers.ok {α : Type} {outcome : Except String α} {value : α}
    (answers : Answers outcome (some value)) : outcome = .ok value := by
  rcases answers.cases with ⟨other, rfl, same⟩ | ⟨error, rfl, absent⟩
  · rw [Option.some.inj same]
  · cases absent

variable (debug : String → String)

/-- Opening a library answers whether the device has it. -/
theorem eval_openLibrary (clean : '\x00' ∉ name.toList) :
    Answers ((openLibrary debug name (rtldNow ||| rtldGlobal)).run.eval device)
      (device.library name) := by
  have answered : (dlopen name (rtldNow ||| rtldGlobal)).eval device =
    device (.dlopen name (rtldNow ||| rtldGlobal)) := rfl
  rw [openLibrary, Fallible.eval_bind_ok device (eval_cString device clean),
    Fallible.eval_lift_bind, answered, Device.library, Device.proper]
  split
  · rw [Fallible.eval_lift_bind]
    rfl
  · rfl

/-- A lookup answers whether the library has the symbol. -/
theorem eval_symbol (clean : '\x00' ∉ name.toList) :
    Answers ((symbol debug handle name).run.eval device) (device.symbol handle name) := by
  have answered : (dlsym handle name).eval device = device (.dlsym handle name) := rfl
  rw [symbol, Fallible.eval_bind_ok device (eval_cString device clean),
    Fallible.eval_lift_bind, answered, Device.symbol, Device.proper]
  split
  · rw [Fallible.eval_lift_bind]
    rfl
  · rfl

/-- A library whose absence is no failure is found if the device has it. -/
theorem eval_optionalLibrary (clean : '\x00' ∉ name.toList) :
    (optionalLibrary debug name (rtldNow ||| rtldGlobal)).eval device = device.library name := by
  rw [optionalLibrary, Program.eval_bind, ← eval_openLibrary device debug clean]
  rfl

/-- A symbol whose absence is no failure is found if the library has it. -/
theorem eval_optionalSymbol (clean : '\x00' ∉ name.toList) :
    (optionalSymbol debug handle name).eval device = device.symbol handle name := by
  rw [optionalSymbol, Program.eval_bind, ← eval_symbol device debug clean]
  rfl

/-- A machine is returned exactly if the device creates it. -/
theorem eval_invokeCreateVm (createVm : Pointer) (vm : Pointer × Pointer) :
    (invokeCreateVm createVm).run.eval device = .ok vm ↔ device.Creates createVm vm := by
  have answered : (callCreateJavaVm createVm initArguments).eval device =
    device (.createJavaVm createVm initArguments) := rfl
  rw [invokeCreateVm, Fallible.eval_lift_bind, answered, Device.Creates]
  generalize (device (.createJavaVm createVm initArguments) : CreatedVm) = created
  obtain ⟨status, made, env⟩ := created
  dsimp only
  split
  · rename_i failed
    refine ⟨fun returned => not_returned returned, fun creates => ?_⟩
    cases creates.1
    exact absurd rfl failed
  split
  · rename_i failed
    refine ⟨fun returned => not_returned returned, fun creates => ?_⟩
    cases creates.1
    exact absurd failed creates.2.1
  split
  · rename_i failed
    refine ⟨fun returned => not_returned returned, fun creates => ?_⟩
    cases creates.1
    exact absurd failed creates.2.2
  · rename_i ok madeSet envSet
    rw [Decidable.not_not.mp ok]
    constructor
    · intro returned
      cases Except.ok.inj returned
      exact ⟨rfl, madeSet, envSet⟩
    · rintro ⟨same, -⟩
      cases same
      rfl

/-- An old runtime returns a machine exactly if the device provides one through it. -/
theorem eval_createVmFromRuntime {runtime : String} (listed : runtime ∈ runtimes)
    (vm : Pointer × Pointer) :
    (createVmFromRuntime debug runtime).run.eval device = .ok vm ↔
      device.Provides runtime vm := by
  have clean : ∀ runtime ∈ runtimes, '\x00' ∉ runtime.toList := by decide
  rw [createVmFromRuntime, Device.Provides]
  have opened := eval_openLibrary device debug (clean runtime listed)
  rcases opened.cases with ⟨handle, outcome, found⟩ | ⟨error, outcome, found⟩
  · rw [Fallible.eval_bind_ok device (Fallible.eval_adapt_ok device outcome), found]
    have looked : Answers ((symbol debug handle "JNI_CreateJavaVM").run.eval device)
        (device.symbol handle "JNI_CreateJavaVM") := eval_symbol device debug (by decide)
    rcases looked.cases with ⟨createVm, outcome, found⟩ | ⟨error, outcome, found⟩
    · rw [Fallible.eval_bind_ok device (Fallible.eval_adapt_ok device outcome),
        eval_invokeCreateVm]
      constructor
      · exact fun creates => ⟨handle, createVm, rfl, found, creates⟩
      · rintro ⟨other, function, here, same, creates⟩
        cases here
        rw [found] at same
        cases same
        exact creates
    · rw [Fallible.eval_bind_error device (Fallible.eval_adapt_error device outcome)]
      refine ⟨fun returned => not_returned returned, ?_⟩
      rintro ⟨other, function, here, same, -⟩
      cases here
      rw [found] at same
      cases same
  · rw [Fallible.eval_bind_error device (Fallible.eval_adapt_error device outcome), found]
    refine ⟨fun returned => not_returned returned, ?_⟩
    rintro ⟨handle, createVm, here, -⟩
    cases here

/-- With every part of the helper there, the machine is the helper's, or there is none. -/
theorem eval_createVmWithNativehelper {helper : Device.Helper}
    (create : device.symbol handle "JniInvocationCreate" = some helper.create)
    (init : device.symbol handle "JniInvocationInit" = some helper.init)
    (createVm : device.symbol handle "JNI_CreateJavaVM" = some helper.createVm)
    (vm : Pointer × Pointer) :
    (createVmWithNativehelper debug handle).run.eval device = .ok vm ↔
      helper.Gives device vm := by
  have found {name : String} {value : Pointer} (clean : '\x00' ∉ name.toList)
      (here : device.symbol handle name = some value) :
      (symbol debug handle name).run.eval device = .ok value :=
    Answers.ok (here ▸ eval_symbol device debug clean)
  have invoked : (callInvocationCreate helper.create).eval device =
    device (.invocationCreate helper.create) := rfl
  rw [createVmWithNativehelper, Fallible.eval_bind_ok device (found (by decide) create),
    Fallible.eval_bind_ok device (found (by decide) init), Fallible.eval_lift_bind, invoked,
    Device.Helper.Gives]
  generalize (device (.invocationCreate helper.create) : Pointer) = invocation
  have initialized : (callInvocationInit helper.init invocation null).eval device =
    device (.invocationInit helper.init invocation null) := rfl
  dsimp only
  split
  · rename_i missing
    exact ⟨fun returned => not_returned returned, fun gives => absurd missing gives.1⟩
  rename_i invocationSet
  rw [Fallible.eval_lift_bind, initialized]
  generalize (device (.invocationInit helper.init invocation null) : Int32) = answer
  split
  · rename_i failed
    exact ⟨fun returned => not_returned returned, fun gives => absurd failed gives.2.1⟩
  rename_i answerSet
  rw [Fallible.eval_bind_ok device (found (by decide) createVm), eval_invokeCreateVm]
  exact ⟨fun creates => ⟨invocationSet, answerSet, creates⟩, fun gives => gives.2.2⟩

/-- The new way is taken exactly when it is there. -/
theorem eval_tryCreateVmWithNativehelper :
    (tryCreateVmWithNativehelper debug).run.eval device = .ok none ∧ device.helper = none ∨
      ∃ helper, device.helper = some helper ∧
        ((∃ error, (tryCreateVmWithNativehelper debug).run.eval device = .error error) ∧
            (∀ vm, ¬ helper.Gives device vm) ∨
          ∃ vm, (tryCreateVmWithNativehelper debug).run.eval device = .ok (some vm) ∧
            ∀ other, helper.Gives device other ↔ other = vm) := by
  rw [tryCreateVmWithNativehelper, Fallible.eval_lift_bind,
    eval_optionalLibrary device debug (by decide)]
  unfold Device.helper
  cases device.library "libnativehelper.so" with
  | none => exact .inl ⟨rfl, rfl⟩
  | some handle =>
  dsimp only [Option.bind_eq_bind, Option.bind_some]
  rw [Fallible.eval_lift_bind, eval_optionalSymbol device debug (by decide),
    Fallible.eval_lift_bind, eval_optionalSymbol device debug (by decide),
    Fallible.eval_lift_bind, eval_optionalSymbol device debug (by decide)]
  cases create : device.symbol handle "JniInvocationCreate" with
  | none => exact .inl ⟨rfl, rfl⟩
  | some createInvocation =>
  cases init : device.symbol handle "JniInvocationInit" with
  | none => exact .inl ⟨rfl, rfl⟩
  | some initInvocation =>
  cases last : device.symbol handle "JNI_CreateJavaVM" with
  | none => exact .inl ⟨rfl, rfl⟩
  | some createVm =>
  have gives := eval_createVmWithNativehelper device debug
    (show _ = some (Device.Helper.create ⟨createInvocation, initInvocation, createVm⟩) from create)
    init last
  rw [if_neg (by simp)]
  refine .inr ⟨_, rfl, ?_⟩
  change (∃ error, (createVmWithNativehelper debug handle >>= fun vm =>
      pure (some vm)).run.eval device = .error error) ∧ _ ∨
    ∃ vm, (createVmWithNativehelper debug handle >>= fun vm =>
      pure (some vm)).run.eval device = .ok (some vm) ∧ _
  cases outcome : (createVmWithNativehelper debug handle).run.eval device with
  | error error =>
      refine .inl ⟨⟨error, Fallible.eval_bind_error device outcome⟩, fun vm given => ?_⟩
      have returned := (gives vm).mpr given
      rw [outcome] at returned
      exact not_returned returned
  | ok vm =>
      refine .inr ⟨vm, Fallible.eval_bind_ok device outcome, fun other => ?_⟩
      rw [← gives other, outcome]
      exact ⟨fun same => (Except.ok.inj same).symm, fun same => congrArg Except.ok same.symm⟩

/-- `libdvm.so` is asked only where `libart.so` provides nothing. -/
theorem eval_createVmLegacy (vm : Pointer × Pointer) :
    (createVmLegacy debug).run.eval device = .ok vm ↔
      device.Provides "libart.so" vm ∨
        (∀ other, ¬ device.Provides "libart.so" other) ∧ device.Provides "libdvm.so" vm := by
  have art := eval_createVmFromRuntime device debug (by decide : "libart.so" ∈ runtimes)
  have dvm := eval_createVmFromRuntime device debug (by decide : "libdvm.so" ∈ runtimes)
  rw [createVmLegacy, runtimes, createVmFromRuntimes, Fallible.eval_attempt_bind]
  cases first : (createVmFromRuntime debug "libart.so").run.eval device with
  | ok made =>
      have provided := (art made).mp first
      rw [← art vm, first]
      exact ⟨.inl, fun either => either.resolve_right fun later => later.1 made provided⟩
  | error error =>
      have nothing (other : Pointer × Pointer) : ¬ device.Provides "libart.so" other := by
        rw [← art other, first]
        exact fun returned => not_returned returned
      have second : (device.Provides "libart.so" vm ∨
          (∀ other, ¬ device.Provides "libart.so" other) ∧ device.Provides "libdvm.so" vm) ↔
            device.Provides "libdvm.so" vm :=
        ⟨fun either => either.elim (fun provided => absurd provided (nothing vm)) (·.2),
          fun provided => .inr ⟨nothing, provided⟩⟩
      dsimp only
      rw [second, ← dvm vm, createVmFromRuntimes, Fallible.eval_attempt_bind]
      cases (createVmFromRuntime debug "libdvm.so").run.eval device with
      | ok made => exact Iff.rfl
      | error other =>
          exact ⟨fun returned => not_returned returned, fun returned => not_returned returned⟩

/-- Registration succeeds exactly by the one function that the device has, the newer one first. -/
theorem eval_registerFrameworkNatives (runtime env : Pointer) :
    (registerFrameworkNatives debug runtime env).run.eval device = .ok () ↔
      device.Registers runtime env := by
  rw [registerFrameworkNatives, Fallible.eval_lift_bind,
    eval_optionalSymbol device debug (by decide), Device.Registers]
  cases device.symbol runtime "registerFrameworkNatives" with
  | some register =>
      have answered : (callRegister register env).eval device =
        device (.registerFrameworkNatives register env) := rfl
      dsimp only
      rw [Fallible.eval_lift_bind, answered]
      split
      · rename_i failed
        exact ⟨fun returned => not_returned returned, fun registered => absurd registered failed⟩
      · rename_i ok
        exact ⟨fun _ => Decidable.not_not.mp ok, fun _ => rfl⟩
  | none =>
      dsimp only
      rw [Fallible.eval_lift_bind, eval_optionalSymbol device debug (by decide)]
      cases device.symbol runtime
          "Java_com_android_internal_util_WithFramework_registerNatives" with
      | none =>
          refine ⟨fun returned => not_returned returned, ?_⟩
          rintro ⟨register, here, -⟩
          cases here
      | some register =>
          have answered : (callRegisterLegacy register env null).eval device =
            device (.registerFrameworkNativesLegacy register env null) := rfl
          dsimp only
          rw [Fallible.eval_lift_bind, answered]
          split
          · rename_i failed
            refine ⟨fun returned => not_returned returned, ?_⟩
            rintro ⟨other, here, registered⟩
            cases here
            exact absurd registered failed
          · rename_i ok
            exact ⟨fun _ => ⟨register, rfl, Decidable.not_not.mp ok⟩, fun _ => rfl⟩

/-- The machine that is offered is the one that the new way gives, or else the old one. -/
theorem offers_cases :
    (tryCreateVmWithNativehelper debug).run.eval device = .ok none ∧
        (∀ vm, device.Offers vm ↔ (createVmLegacy debug).run.eval device = .ok vm) ∨
      (∃ error, (tryCreateVmWithNativehelper debug).run.eval device = .error error) ∧
          (∀ vm, ¬ device.Offers vm) ∨
        ∃ made, (tryCreateVmWithNativehelper debug).run.eval device = .ok (some made) ∧
          ∀ vm, device.Offers vm ↔ vm = made := by
  unfold Device.Offers
  rcases eval_tryCreateVmWithNativehelper device debug with
    ⟨outcome, absent⟩ | ⟨helper, here, ⟨outcome, given⟩ | ⟨made, outcome, given⟩⟩
  · rw [absent]
    exact .inl ⟨outcome, fun vm => (eval_createVmLegacy device debug vm).symm⟩
  · rw [here]
    exact .inr (.inl ⟨outcome, given⟩)
  · rw [here]
    exact .inr (.inr ⟨made, outcome, given⟩)

/-- A machine that was made is returned when its natives are registered. -/
theorem eval_finish {runtime : Pointer} (made : Pointer × Pointer) (vm : Pointer) :
    (registerFrameworkNatives debug runtime made.2 >>= fun _ => pure made.1).run.eval device =
        .ok vm ↔
      ∃ env, made = (vm, env) ∧ device.Registers runtime env := by
  have registers := eval_registerFrameworkNatives device debug runtime made.2
  cases registered : (registerFrameworkNatives debug runtime made.2).run.eval device with
  | error error =>
      rw [Fallible.eval_bind_error device registered]
      refine ⟨fun returned => not_returned returned, ?_⟩
      rintro ⟨env, rfl, natives⟩
      have returned := registers.mpr natives
      rw [registered] at returned
      exact not_returned returned
  | ok _ =>
      rw [Fallible.eval_bind_ok device registered]
      constructor
      · intro returned
        cases Except.ok.inj returned
        exact ⟨made.2, rfl, registers.mp registered⟩
      · rintro ⟨env, rfl, -⟩
        rfl

/-- The invocation API has given the machine. -/
theorem eval_given {runtime vm : Pointer} {made : Pointer × Pointer}
    (offers : ∀ vm, device.Offers vm ↔ vm = made) :
    (registerFrameworkNatives debug runtime made.2 >>= fun _ => pure made.1).run.eval device =
        .ok vm ↔
      ∃ env, device.Offers (vm, env) ∧ device.Registers runtime env := by
  rw [eval_finish]
  refine exists_congr fun env => and_congr_left fun _ => ?_
  rw [offers, eq_comm]

/-- There is no complete helper library, and the runtimes of old systems are tried. -/
theorem eval_legacy {runtime vm : Pointer}
    (offers : ∀ vm, device.Offers vm ↔ (createVmLegacy debug).run.eval device = .ok vm) :
    (createVmLegacy debug >>= fun made =>
        registerFrameworkNatives debug runtime made.2 >>= fun _ => pure made.1).run.eval device =
        .ok vm ↔
      ∃ env, device.Offers (vm, env) ∧ device.Registers runtime env := by
  cases legacy : (createVmLegacy debug).run.eval device with
  | error error =>
      rw [Fallible.eval_bind_error device legacy]
      refine ⟨fun returned => not_returned returned, ?_⟩
      rintro ⟨env, offered, -⟩
      have returned := (offers (vm, env)).mp offered
      rw [legacy] at returned
      exact not_returned returned
  | ok made =>
      rw [Fallible.eval_bind_ok device legacy]
      refine eval_given device debug fun other => ?_
      rw [offers, legacy, Except.ok.injEq, eq_comm]

end Eval

/-- On a device that answers consistently, a machine is returned exactly when the device
offers it and registers its natives. What the runtimes of old systems offer counts only where there
is no complete helper library. -/
theorem createAndroidVm_boots (debug : String → String) (device : Device) (vm : Pointer) :
    ((createAndroidVm debug).run.run (fun _ => device) []).1 = .ok vm ↔
      ∃ runtime env, device.library "libandroid_runtime.so" = some runtime ∧
        device.Offers (vm, env) ∧ device.Registers runtime env := by
  rw [Program.run_eval, createAndroidVm, Fallible.eval_lift_bind]
  have opened := eval_openLibrary device debug
    (by decide : '\x00' ∉ "libandroid_runtime.so".toList)
  rcases opened.cases with ⟨runtime, outcome, found⟩ | ⟨error, outcome, found⟩
  · rw [Fallible.eval_bind_ok device (Fallible.eval_adapt_ok device outcome),
      Fallible.eval_attempt_bind, found]
    simp only [Option.some.injEq, exists_and_left, exists_eq_left']
    rcases offers_cases device debug with
      ⟨attempted, offers⟩ | ⟨⟨error, attempted⟩, offers⟩ | ⟨made, attempted, offers⟩
    · rw [attempted]
      exact eval_legacy device debug offers
    · rw [attempted]
      refine ⟨fun returned => not_returned returned, ?_⟩
      rintro ⟨env, offered, -⟩
      exact absurd offered (offers (vm, env))
    · rw [attempted]
      exact eval_given device debug offers
  · rw [Fallible.eval_bind_error device (Fallible.eval_adapt_error device outcome), found]
    refine ⟨fun returned => not_returned returned, ?_⟩
    rintro ⟨runtime, env, here, -⟩
    cases here

end Arisa.Android.Art
