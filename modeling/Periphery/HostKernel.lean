import Mathlib.Logic.Function.Basic
import Periphery.Syscall

/-!
# Descriptors and mappings of the host

The kernel model used wherever only the ownership of resources matters.  It
keeps the descriptors that the library opened and the mappings that it made,
each with the object on whose behalf the call was issued.

Every call may fail, with two exceptions: the page size is a constant, and
unmapping a live mapping succeeds.  `open` may hand out any number that is
not in use, whether the library or another part of the process used it
before.  `close` releases the descriptor even when it reports an error.
-/

namespace Periphery

/-- A live mapping: who made it, its length and the file offset behind it. -/
@[ext]
structure Mapping where
  owner : Nat
  length : Word
  offset : Word
deriving DecidableEq, Repr

/-- The resources of the process. -/
structure Host where
  pageSize : Word
  /-- The owner of each descriptor that the library opened. -/
  descriptors : Int → Option Nat
  /-- The descriptors that are open elsewhere in the process. -/
  foreign : Int → Bool
  mappings : Word → Option Mapping
  /-- Calls of `close` on a descriptor that the caller did not own. -/
  strayCloses : Nat

namespace Host

/-- The host after `caller` was granted the descriptor `fd`. -/
def grant (host : Host) (caller : Nat) (fd : Int) : Host :=
  { host with
    descriptors := Function.update host.descriptors fd (some caller) }

/-- The host after `caller` closed `fd`. -/
def release (host : Host) (caller : Nat) (fd : Int) : Host :=
  if host.descriptors fd = some caller then
    { host with
      descriptors := Function.update host.descriptors fd none }
  else
    { host with
      descriptors := Function.update host.descriptors fd none
      foreign := Function.update host.foreign fd false
      strayCloses := host.strayCloses + 1 }

/-- The host after a mapping was placed at `address`. -/
def mapAt (host : Host) (address : Word) (mapping : Mapping) :
    Host :=
  { host with
    mappings :=
      Function.update host.mappings address (some mapping) }

/--
The host after `munmap`.  Only the whole mapping goes away: a call that names
another length leaves it live.
-/
def unmapAt (host : Host) (address length : Word) : Host :=
  match host.mappings address with
  | some mapping =>
      if mapping.length = length then
        { host with
          mappings := Function.update host.mappings address none }
      else
        host
  | none => host

theorem release_grant
    {host : Host} {caller : Nat} {fd : Int}
    (unused : host.descriptors fd = none) :
    (host.grant caller fd).release caller fd = host := by
  have restored :
      Function.update host.descriptors fd none =
        host.descriptors := by
    rw [← unused, Function.update_eq_self]
  simp [grant, release, restored]

theorem unmapAt_mapAt
    {host : Host} {address : Word} {mapping : Mapping}
    (unused : host.mappings address = none) :
    (host.mapAt address mapping).unmapAt address mapping.length =
      host := by
  have restored :
      Function.update host.mappings address none =
        host.mappings := by
    rw [← unused, Function.update_eq_self]
  simp [mapAt, unmapAt, restored]

theorem release_mapAt
    {host : Host} {caller : Nat} {fd : Int}
    {address : Word} {mapping : Mapping} :
    (host.mapAt address mapping).release caller fd =
      (host.release caller fd).mapAt address mapping := by
  by_cases owned : host.descriptors fd = some caller <;>
    simp [release, mapAt, owned]

end Host

/-- The calls of the object `caller`. -/
def hostKernel (caller : Nat) : Kernel posix Host :=
  fun host request answer host' =>
    match request, answer with
    | .open _ _, fd =>
        fd < 0 ∧ host' = host ∨
          0 ≤ fd ∧ host.descriptors fd = none ∧
            host.foreign fd = false ∧ host' = host.grant caller fd
    | .close fd, _ => host' = host.release caller fd
    | .sysconfPagesize, page =>
        page = host.pageSize ∧ host' = host
    | .mmap length _ offset, address =>
        address = mapFailed ∧ host' = host ∨
          address ≠ mapFailed ∧ length ≠ 0 ∧
            host.mappings address = none ∧
            host' = host.mapAt address ⟨caller, length, offset⟩
    | .munmap address length, _ =>
        host' = host.unmapAt address length
    | _, _ => host' = host

end Periphery
