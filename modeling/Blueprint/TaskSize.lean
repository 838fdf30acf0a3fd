import Blueprint.Error

/-!
Task sizes of the container service. A size pairs processor units with memory; for each number of
units the memory is the least one allowed or a whole number of gibibytes up to the most.
-/

namespace Blueprint

/-- The memory that goes with a number of processor units, in mebibytes. -/
structure TaskSize where
  cpu : Nat
  minMemory : Nat
  maxMemory : Nat
  deriving DecidableEq

namespace TaskSize

/-- The sizes on offer. -/
def table : List TaskSize :=
  [⟨256, 512, 2048⟩, ⟨512, 1024, 4096⟩, ⟨1024, 2048, 8192⟩, ⟨2048, 4096, 16384⟩,
    ⟨4096, 8192, 30720⟩]

/-- Whether an amount of memory goes with a size. -/
def accepts (size : TaskSize) (memory : Nat) : Bool :=
  size.minMemory ≤ memory && memory ≤ size.maxMemory &&
    (memory = size.minMemory || memory % 1024 = 0)

/-- Check that processor units and memory make a size on offer. -/
def check (cpu memory : Nat) : Except SettingsError Unit :=
  match table.find? fun size => size.cpu = cpu with
  | none =>
    let offered := String.intercalate ", " (table.map fun size => toString size.cpu)
    .error (.invalid "fargateCpu"
      s!"{cpu} is not a task CPU size (expected one of {offered})")
  | some size =>
    if size.accepts memory then .ok ()
    else
      .error (.invalid "fargateMemoryLimit"
        s!"{memory} MiB is not valid with {cpu} CPU units (allowed {size.minMemory}..={size.maxMemory} MiB)")

end TaskSize

end Blueprint
