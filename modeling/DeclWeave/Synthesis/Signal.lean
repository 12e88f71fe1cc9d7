import DeclWeave.Synthesis.Accessor

/-!
# Signals and Futures

A field marked as a signal or a future becomes a readonly property. With an initializer, that is
its getter. Without one, a hidden trigger field is made beside it, and the getter converts the
trigger.
-/

namespace DeclWeave

namespace SignalFlavor

/-- The generic type of the published property. -/
def publishedType : SignalFlavor → String
  | .signal => "Signal"
  | .future => "Future"

/-- The generic type of the trigger behind it. -/
def triggerType : SignalFlavor → String
  | .signal => "SignalTrigger"
  | .future => "FutureTrigger"

/-- The method of the trigger that gives the published value. -/
def conversion : SignalFlavor → String
  | .signal => "toSignal"
  | .future => "toFuture"

/-- The type of what a field carries: the argument of a type that is published already, or else
the declared type; `Noise` when nothing is said. -/
def payload (flavor : SignalFlavor) : Option TypeRef → TypeRef
  | some type =>
    if type.name = flavor.publishedType then type.args.head?.getD (.named "Noise") else type
  | none => .named "Noise"

end SignalFlavor

def triggerName (field : String) : String := field ++ "Trigger"

namespace SignalRequest

/-- The hidden field that triggers. In an interface it is donated only with the getter. -/
def trigger (r : SignalRequest) (field : Member) (onInterface : Bool) : Member :=
  let type : TypeRef := ⟨r.flavor.triggerType, [r.flavor.payload field.type]⟩
  { name := triggerName field.name
    kind := .field
    visibility := some .hidden
    signature := { type := some type }
    body := some (.call "new" [.sym r.flavor.triggerType field.span] field.span)
    origin := .synthesized
    directives := if onInterface then [.usedOnlyBy [getterName field.name]] else []
    span := field.span }

/-- The expression that converts the trigger of a field. -/
def converted (r : SignalRequest) (field : Member) : Form :=
  .invoke (.getOfThis (triggerName field.name) field.span) r.flavor.conversion [] field.span

/-- Turns a field into a published readonly property. -/
def apply (r : SignalRequest) (field : Member) (onInterface : Bool) (registry : NameRegistry) :
    Synthesized :=
  let published : Member :=
    { field with
      signature :=
        { field.signature with
          type := some ⟨r.flavor.publishedType, [r.flavor.payload field.type]⟩ }
      body := none }
  match field.body with
  | some init => (PropertySpec.mk (.readonly (some init)) false).apply published registry
  | none =>
    let (triggers, registry) := registry.accept (r.trigger field onInterface)
    let s := (PropertySpec.mk (.readonly (some (r.converted field))) false).apply published registry
    { s with added := triggers ++ s.added }

end SignalRequest

end DeclWeave
