import QnxAtc.Library.FixedArray
import QnxAtc.Messages.Layout

/-! # Message structures

The contents of `Msg_structs.h`, which the three projects share verbatim. An `int`
is an `Int32` and a `size_t` a `UInt64`. Each payload struct comes with its object
representation, field by field at the offsets the compiler gives it.
-/

namespace QnxAtc

open FixedArray

inductive MessageType where
  | enterAirspace
  | exitAirspace
  | positionUpdate
  | requestPosition
  | requestChangeOfHeading
  | requestChangePosition
  | requestChangeAltitude
  | requestAugmentedInfo
  | changeTimeConstraintCollisions
  | exit
  | collisionDetected
deriving DecidableEq, Repr

/-- An intra-process message. Every sender leaves the `data` pointer null except the
relay, whose `Message` is only a parameter of its own helper functions. -/
structure Message where
  header : Bool
  type : MessageType
  planeID : Int32
  data : Option (List Byte)
  dataSize : UInt64
deriving DecidableEq

structure MsgPlaneInfo where
  id : Int32
  positionX : ℚ
  positionY : ℚ
  positionZ : ℚ
  velocityX : ℚ
  velocityY : ℚ
  velocityZ : ℚ
deriving DecidableEq

instance : Inhabited MsgPlaneInfo := ⟨⟨0, 0, 0, 0, 0, 0, 0⟩⟩

structure MsgChangeHeading where
  ID : Int32
  velocityX : ℚ
  velocityY : ℚ
  velocityZ : ℚ
  altitude : ℚ
deriving DecidableEq

structure MsgChangePosition where
  x : ℚ
  y : ℚ
  z : ℚ
deriving DecidableEq

/-- The number of records `SharedMemory::plane_data` has room for. -/
def planeDataCapacity : Nat := 100

/-- The snapshot Radar publishes. The `start` flag is written once and never read. -/
structure SharedMemory where
  planeData : Vector MsgPlaneInfo planeDataCapacity
  count : Nat
  isEmpty : Bool
  timestamp : UInt64

/-- The number of bytes of `Message_inter_process::data`. -/
def dataCapacity : Nat := 1024

structure MessageInterProcess where
  header : Bool
  type : MessageType
  planeID : Int32
  data : Vector Byte dataCapacity
  dataSize : UInt64

/-- The value-initialised message `Message_inter_process msg{}`. -/
def MessageInterProcess.zero : MessageInterProcess :=
  ⟨false, .enterAirspace, 0, .replicate dataCapacity (.raw 0), 0⟩

/-! ## Sizes -/

def sizeofInt : Nat := 4
def sizeofPairIntInt : Nat := 8
def sizeofMsgPlaneInfo : Nat := 56
def sizeofMsgChangeHeading : Nat := 40
def sizeofMsgChangePosition : Nat := 24

/-! ## Representations of the payload structs -/

def MsgPlaneInfo.bytes (m : MsgPlaneInfo) : List Byte :=
  intBytes m.id ++ (padding 4 ++ (doubleBytes m.positionX ++ (doubleBytes m.positionY ++
    (doubleBytes m.positionZ ++ (doubleBytes m.velocityX ++ (doubleBytes m.velocityY ++
      doubleBytes m.velocityZ))))))

def MsgPlaneInfo.ofBytes (bs : List Byte) : MsgPlaneInfo where
  id := loadInt bs
  positionX := loadDouble (bs.drop 8)
  positionY := loadDouble (bs.drop 16)
  positionZ := loadDouble (bs.drop 24)
  velocityX := loadDouble (bs.drop 32)
  velocityY := loadDouble (bs.drop 40)
  velocityZ := loadDouble (bs.drop 48)

def MsgChangeHeading.bytes (m : MsgChangeHeading) : List Byte :=
  intBytes m.ID ++ (padding 4 ++ (doubleBytes m.velocityX ++ (doubleBytes m.velocityY ++
    (doubleBytes m.velocityZ ++ doubleBytes m.altitude))))

def MsgChangeHeading.ofBytes (bs : List Byte) : MsgChangeHeading where
  ID := loadInt bs
  velocityX := loadDouble (bs.drop 8)
  velocityY := loadDouble (bs.drop 16)
  velocityZ := loadDouble (bs.drop 24)
  altitude := loadDouble (bs.drop 32)

def MsgChangePosition.bytes (m : MsgChangePosition) : List Byte :=
  doubleBytes m.x ++ (doubleBytes m.y ++ doubleBytes m.z)

def MsgChangePosition.ofBytes (bs : List Byte) : MsgChangePosition where
  x := loadDouble bs
  y := loadDouble (bs.drop 8)
  z := loadDouble (bs.drop 16)

@[simp] theorem MsgPlaneInfo.bytes_length (m : MsgPlaneInfo) :
    m.bytes.length = sizeofMsgPlaneInfo := by
  simp [MsgPlaneInfo.bytes, sizeofMsgPlaneInfo]

@[simp] theorem MsgChangeHeading.bytes_length (m : MsgChangeHeading) :
    m.bytes.length = sizeofMsgChangeHeading := by
  simp [MsgChangeHeading.bytes, sizeofMsgChangeHeading]

@[simp] theorem MsgChangePosition.bytes_length (m : MsgChangePosition) :
    m.bytes.length = sizeofMsgChangePosition := by
  simp [MsgChangePosition.bytes, sizeofMsgChangePosition]

/-! Reading a struct back skips exactly the fields before the one it loads. -/

theorem MsgPlaneInfo.ofBytes_bytes_append (m : MsgPlaneInfo) (rest : List Byte) :
    MsgPlaneInfo.ofBytes (m.bytes ++ rest) = m := by
  cases m
  simp [MsgPlaneInfo.ofBytes, MsgPlaneInfo.bytes, List.drop_append, List.drop_eq_nil_of_le]

theorem MsgChangeHeading.ofBytes_bytes_append (m : MsgChangeHeading) (rest : List Byte) :
    MsgChangeHeading.ofBytes (m.bytes ++ rest) = m := by
  cases m
  simp [MsgChangeHeading.ofBytes, MsgChangeHeading.bytes, List.drop_append,
    List.drop_eq_nil_of_le]

theorem MsgChangePosition.ofBytes_bytes_append (m : MsgChangePosition) (rest : List Byte) :
    MsgChangePosition.ofBytes (m.bytes ++ rest) = m := by
  cases m
  simp [MsgChangePosition.ofBytes, MsgChangePosition.bytes, List.drop_append,
    List.drop_eq_nil_of_le]

theorem MsgChangeHeading.ofBytes_take {n : Nat} (h : sizeofMsgChangeHeading ≤ n)
    (bs : List Byte) : ofBytes (bs.take n) = ofBytes bs := by
  unfold sizeofMsgChangeHeading at h
  simp only [ofBytes, List.drop_take]
  rw [loadInt_take (by omega), loadDouble_take (by omega), loadDouble_take (by omega),
    loadDouble_take (by omega), loadDouble_take (by omega)]

theorem MsgChangePosition.ofBytes_take {n : Nat} (h : sizeofMsgChangePosition ≤ n)
    (bs : List Byte) : ofBytes (bs.take n) = ofBytes bs := by
  unfold sizeofMsgChangePosition at h
  simp only [ofBytes, List.drop_take]
  rw [loadDouble_take (by omega), loadDouble_take (by omega), loadDouble_take (by omega)]

/-! ## Payloads copied into a message -/

theorem MsgPlaneInfo.ofBytes_overwrite (data : Vector Byte dataCapacity) (m : MsgPlaneInfo) :
    MsgPlaneInfo.ofBytes (overwrite data m.bytes).toList = m := by
  rw [toList_overwrite data (by simp [sizeofMsgPlaneInfo, dataCapacity])]
  exact m.ofBytes_bytes_append _

theorem MsgChangeHeading.ofBytes_overwrite (data : Vector Byte dataCapacity)
    (m : MsgChangeHeading) : MsgChangeHeading.ofBytes (overwrite data m.bytes).toList = m := by
  rw [toList_overwrite data (by simp [sizeofMsgChangeHeading, dataCapacity])]
  exact m.ofBytes_bytes_append _

theorem MsgChangePosition.ofBytes_overwrite (data : Vector Byte dataCapacity)
    (m : MsgChangePosition) : MsgChangePosition.ofBytes (overwrite data m.bytes).toList = m := by
  rw [toList_overwrite data (by simp [sizeofMsgChangePosition, dataCapacity])]
  exact m.ofBytes_bytes_append _

end QnxAtc
