import Fiddlesticks.Chat.TurnLog
import Fiddlesticks.Harness.Phases
import Fiddlesticks.Tooling.Runtime

/-!
# The runtime bundle

`RuntimeBundle` of the facade crate: a chat service and a harness over one memory and one tool
runtime, and the builders that wire them. Its processes are chat turns and executions of the
harness, as programs over the memory, the model, the tools and the hooks.
-/

namespace Fiddlesticks.Harness

open Chat

/-- `HarnessBuilder`. The provider, the memory, the strategies and the hooks are the environment of
what it builds. -/
structure HarnessBuilder where
  hasProvider : Bool := false
  hasToolRuntime : Bool := false
  chatPolicy : ChatPolicy := .default
  runPolicy : RunPolicy := .default
  schemaVersion : UInt32 := 1
  harnessVersion : String := "v0"

/-- `HarnessBuilder::build`. -/
def HarnessBuilder.build (builder : HarnessBuilder) : Except HarnessError Harness :=
  match hvalid : builder.runPolicy.validate with
  | .error error => .error error
  | .ok () =>
      if builder.hasProvider then
        .ok { chat := some ⟨⟨builder.chatPolicy, builder.hasToolRuntime⟩, true⟩
              runPolicy := builder.runPolicy, runPolicyValid := hvalid
              schemaVersion := builder.schemaVersion, harnessVersion := builder.harnessVersion }
      else .error (.notReady "provider is required to build chat runtime")

/-- What a builder builds has its policies, and runs its turns over the memory. -/
theorem HarnessBuilder.build_eq_ok_iff (builder : HarnessBuilder) (harness : Harness) :
    builder.build = .ok harness ↔ builder.runPolicy.validate = .ok () ∧
      builder.hasProvider = true ∧
      harness.chat = some ⟨⟨builder.chatPolicy, builder.hasToolRuntime⟩, true⟩ ∧
      harness.runPolicy = builder.runPolicy ∧ harness.schemaVersion = builder.schemaVersion ∧
      harness.harnessVersion = builder.harnessVersion := by
  obtain ⟨chat, runPolicy, runPolicyValid, schemaVersion, harnessVersion⟩ := harness
  rw [build]
  split
  · rename_i error hinvalid
    simp [hinvalid]
  · rename_i hvalid
    cases builder.hasProvider with
    | false => simp
    | true =>
        constructor
        · intro hbuilt
          cases hbuilt
          exact ⟨hvalid, rfl, rfl, rfl, rfl, rfl⟩
        · rintro ⟨-, -, hchat, hpolicy, hschema, hversion⟩
          cases hchat
          cases hpolicy
          cases hschema
          cases hversion
          rfl

end Fiddlesticks.Harness

namespace Fiddlesticks.Facade

open Effect Chat Harness Tooling

variable {Tool : Type}

/-! ## Wiring -/

/-- `RuntimeBundle`, with the tool runtime that its two services share. The memory is its
environment; the chat service has its conversations there. -/
structure RuntimeBundle (Tool : Type) where
  chat : ChatService
  harness : Harness
  tools : Option (DefaultToolRuntime Tool)

/-- `build_runtime_with`. -/
def buildRuntimeWith (toolRuntime : Option (DefaultToolRuntime Tool)) :
    Except HarnessError (RuntimeBundle Tool) := do
  let chat : ChatService := ⟨.default, toolRuntime.isSome⟩
  let harness ← HarnessBuilder.build { hasProvider := true, hasToolRuntime := toolRuntime.isSome }
  return { chat, harness, tools := toolRuntime }

/-- `AgentHarnessBuilder`. -/
structure AgentHarnessBuilder (Tool : Type) where
  toolRuntime : Option (DefaultToolRuntime Tool) := none
  chatPolicy : ChatPolicy := .default
  runPolicy : RunPolicy := .default
  schemaVersion : Option UInt32 := none
  harnessVersion : Option String := none

/-- `AgentHarnessBuilder::build`. -/
def AgentHarnessBuilder.build (builder : AgentHarnessBuilder Tool) :
    Except HarnessError (RuntimeBundle Tool) := do
  let harnessBuilder : HarnessBuilder :=
    { hasProvider := true, chatPolicy := builder.chatPolicy, runPolicy := builder.runPolicy }
  let harnessBuilder := match builder.schemaVersion with
    | some schemaVersion => { harnessBuilder with schemaVersion }
    | none => harnessBuilder
  let harnessBuilder := match builder.harnessVersion with
    | some harnessVersion => { harnessBuilder with harnessVersion }
    | none => harnessBuilder
  let harnessBuilder := { harnessBuilder with hasToolRuntime := builder.toolRuntime.isSome }
  let chat : ChatService := ⟨builder.chatPolicy, builder.toolRuntime.isSome⟩
  let harness ← harnessBuilder.build
  return { chat, harness, tools := builder.toolRuntime }

/-- The services of a bundle are wired alike: the harness runs its turns with the chat service of
the bundle over the memory, and the service has tools where there is a runtime for them. -/
structure RuntimeBundle.Wired (bundle : RuntimeBundle Tool) : Prop where
  chat_eq : bundle.harness.chat = some ⟨bundle.chat, true⟩
  tools_eq : bundle.chat.hasToolRuntime = bundle.tools.isSome

/-- The runtime is built, and wired, with the tools that it is given. -/
theorem buildRuntimeWith_wired (toolRuntime : Option (DefaultToolRuntime Tool)) :
    ∃ bundle, buildRuntimeWith toolRuntime = .ok bundle ∧ bundle.Wired ∧
      bundle.tools = toolRuntime :=
  ⟨_, rfl, ⟨rfl, rfl⟩, rfl⟩

/-- An agent is built exactly where its run policy is valid. It is wired, and has the policies and
the tools of its builder. -/
theorem AgentHarnessBuilder.build_wired (builder : AgentHarnessBuilder Tool) :
    ((∃ bundle, builder.build = .ok bundle) ↔ builder.runPolicy.validate = .ok ()) ∧
      ∀ bundle, builder.build = .ok bundle → bundle.Wired ∧ bundle.tools = builder.toolRuntime ∧
        bundle.chat.policy = builder.chatPolicy ∧ bundle.harness.runPolicy = builder.runPolicy := by
  obtain ⟨harnessBuilder, hprovider, hpolicy, hrunPolicy, htools, hbuild⟩ :
      ∃ harnessBuilder : HarnessBuilder, harnessBuilder.hasProvider = true ∧
        harnessBuilder.chatPolicy = builder.chatPolicy ∧
        harnessBuilder.runPolicy = builder.runPolicy ∧
        harnessBuilder.hasToolRuntime = builder.toolRuntime.isSome ∧
        builder.build = harnessBuilder.build.bind fun harness =>
          .ok ⟨⟨builder.chatPolicy, builder.toolRuntime.isSome⟩, harness, builder.toolRuntime⟩ := by
    obtain ⟨toolRuntime, chatPolicy, runPolicy, schemaVersion, harnessVersion⟩ := builder
    cases schemaVersion <;> cases harnessVersion <;> exact ⟨_, rfl, rfl, rfl, rfl, rfl⟩
  rw [hbuild, ← hrunPolicy]
  refine ⟨⟨?_, ?_⟩, ?_⟩
  · rintro ⟨bundle, hbundle⟩
    cases hharness : harnessBuilder.build with
    | error error =>
        rw [hharness] at hbundle
        cases hbundle
    | ok harness => exact ((HarnessBuilder.build_eq_ok_iff _ _).mp hharness).1
  · intro hvalid
    have hharness := (harnessBuilder.build_eq_ok_iff ⟨some ⟨⟨harnessBuilder.chatPolicy,
      harnessBuilder.hasToolRuntime⟩, true⟩, harnessBuilder.runPolicy, hvalid,
      harnessBuilder.schemaVersion, harnessBuilder.harnessVersion⟩).mpr
        ⟨hvalid, hprovider, rfl, rfl, rfl, rfl⟩
    exact ⟨_, by rw [hharness]; rfl⟩
  · intro bundle hbundle
    cases hharness : harnessBuilder.build with
    | error error =>
        rw [hharness] at hbundle
        cases hbundle
    | ok harness =>
        rw [hharness] at hbundle
        cases hbundle
        obtain ⟨-, -, hchat, hrun, -⟩ := (HarnessBuilder.build_eq_ok_iff _ _).mp hharness
        rw [hpolicy, htools] at hchat
        exact ⟨⟨hchat, rfl⟩, rfl, rfl, hrun⟩

/-! ## Processes -/

/-- What the processes of a bundle ask of their environment. -/
inductive BundleOp (Tool : Type) where
  | harness (op : HarnessOp)
  | tool (op : RuntimeOp Tool)

/-- The answers to each operation. -/
abbrev BundleOp.Answer : BundleOp Tool → Type
  | .harness op => op.Answer
  | .tool op => op.Answer

/-- The signature of the processes. -/
abbrev BundleSig (Tool : Type) : Sig := ⟨BundleOp Tool, BundleOp.Answer⟩

/-- Await the answer to an operation of the tool runtime. -/
def askTool (op : RuntimeOp Tool) : Prog (BundleSig Tool) op.Answer :=
  .call (.tool op) .pure

/-- What an operation becomes in a bundle: its tool runtime executes the tool calls. -/
def withTools (tools : Option (DefaultToolRuntime Tool)) :
    (op : HarnessOp) → Prog (BundleSig Tool) op.Answer
  | .chat (.execute toolCall context) =>
      match tools with
      | some runtime => (runtime.execute toolCall context).translate askTool
      | none => .call (.harness (.chat (.execute toolCall context))) .pure
  | op => .call (.harness op) .pure

/-- A process of a bundle. -/
inductive BundleCall where
  | chat (call : TurnCall)
  | harness (call : HarnessCall)

/-- The outcome of a process. -/
inductive BundleOutcome where
  | chat (outcome : Except ChatError (Option ChatTurnResult))
  | harness (outcome : Except HarnessError RuntimeRunOutcome)

/-- A program of the chat service of a bundle. -/
def RuntimeBundle.turn (bundle : RuntimeBundle Tool) (call : TurnCall) :
    Prog HarnessSig (Except ChatError (Option ChatTurnResult)) :=
  (call.program bundle.chat).run.translate (chatOp true)

/-- In a wired bundle a turn of the harness is the turn of the chat service, with its error
converted. -/
theorem RuntimeBundle.Wired.chatTurn_eq {bundle : RuntimeBundle Tool} (hwired : bundle.Wired)
    {chat : HarnessChat} (hchat : bundle.harness.chat = some chat) (call : TurnCall) :
    chatTurn chat (call.program chat.service) =
      ExceptT.mk ((·.mapError HarnessError.ofChat) <$> bundle.turn call) := by
  obtain rfl : chat = ⟨bundle.chat, true⟩ := Option.some.inj (hchat.symm.trans hwired.chat_eq)
  rfl

/-- The program of a process. -/
def RuntimeBundle.program (bundle : RuntimeBundle Tool) :
    BundleCall → Prog (BundleSig Tool) BundleOutcome
  | .chat call => .chat <$> (bundle.turn call).translate (withTools bundle.tools)
  | .harness call =>
      .harness <$> (call.program bundle.harness).run.translate (withTools bundle.tools)

end Fiddlesticks.Facade
