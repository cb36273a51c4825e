import Periphery.HostKernel
import Periphery.Mmio.Device

/-!
# Construction of a memory window

What a run of the constructor leaves behind.  On success the object holds
the one new mapping and the descriptor it was made through is closed again;
on every failure path the host is as it was before.
-/

namespace Periphery.Mmio

/--
The fields that the constructor computes, and the mapping that stands behind
`m_ptr`.
-/
structure Maps (base size page : Word) (mmio : Mmio)
    (mapping : Mapping) : Prop where
  m_base : mmio.m_base = base
  m_size : mmio.m_size = size
  m_aligned_base : mmio.m_aligned_base = base - base % page
  m_aligned_size :
    mmio.m_aligned_size = size + (base - mmio.m_aligned_base)
  length : mapping.length = mmio.m_aligned_size
  offset : mapping.offset = mmio.m_aligned_base
  nonempty : mmio.m_aligned_size ≠ 0

/-- The effect of a construction on the object and on the host. -/
def Constructs (caller : Nat) (base size : Word) (host : Host) :
    Outcome Exception Unit → Mmio → Host → Prop
  | .returned _, mmio, host' =>
      ∃ mapping,
        Maps base size host.pageSize mmio mapping ∧
          mapping.owner = caller ∧
          host.mappings mmio.m_ptr = none ∧
          host' = host.mapAt mmio.m_ptr mapping
  | .threw _, _, host' => host' = host

theorem construct_ensures
    (caller : Nat) (base size : Word) (raw : Mmio) (host : Host) :
    (construct base size).Ensures (hostKernel caller)
      (Constructs caller base size host) raw host := by
  simp only [construct, sysconfPagesize, sysOpen, sysMmap, sysClose,
    sysMunmap, Routine.ensures_bind, Routine.ensures_self,
    Routine.ensures_update, Routine.ensures_call, Routine.ensures_done,
    Routine.ensures_ite, Routine.ensures_raise, Routine.ensures_pure,
    Routine.afterwards_returned, Routine.afterwards_threw, hostKernel]
  rintro _ _ ⟨rfl, rfl⟩ fd opened
    (⟨refused, rfl⟩ | ⟨granted, unused, _, rfl⟩)
  · exact
      ⟨fun _ => rfl, fun accepted => absurd refused accepted⟩
  · refine ⟨fun negative => absurd negative (Int.not_lt.mpr granted), ?_⟩
    rintro - ptr mapped (⟨failed, rfl⟩ | ⟨valid, nonempty, free, rfl⟩)
    · refine ⟨?_, fun valid => absurd failed valid⟩
      rintro - _ _ rfl
      exact Host.release_grant unused
    · refine ⟨fun failed => absurd failed valid, ?_⟩
      rintro - error _ rfl
      rw [Host.release_mapAt, Host.release_grant unused]
      refine ⟨?_, fun _ => ?_⟩
      · rintro - _ _ rfl
        exact Host.unmapAt_mapAt free
      · exact
          ⟨_, ⟨rfl, rfl, rfl, rfl, rfl, rfl, nonempty⟩,
            rfl, free, rfl⟩

/-! ## A window of one byte -/

/-- A host with pages of 4096 bytes on which nothing is open or mapped. -/
def idleHost : Host where
  pageSize := 4096
  descriptors _ := none
  foreign _ := false
  mappings _ := none
  strayCloses := 0

/-- The object for the one byte at address 1, mapped at address 4096. -/
def byteWindow : Mmio where
  m_base := 1
  m_aligned_base := 0
  m_size := 1
  m_aligned_size := 2
  m_ptr := 4096

theorem construct_byteWindow :
    (construct 1 1).Executes (hostKernel 0)
      ⟨0, 0, 0, 0, 0⟩ idleHost (.returned ()) byteWindow
      (idleHost.mapAt 4096 ⟨0, 2, 0⟩) := by
  apply Routine.Executes.call (4096 : Word) ⟨rfl, rfl⟩
  apply Routine.Executes.call (3 : Int)
    (.inr ⟨by decide, rfl, rfl, rfl⟩)
  apply Routine.Executes.call (4096 : Word)
    (.inr ⟨by decide, by decide, rfl, rfl⟩)
  apply Routine.Executes.call (0 : Int) rfl
  rw [Host.release_mapAt, Host.release_grant rfl]
  exact ⟨rfl, rfl, rfl⟩

end Periphery.Mmio
