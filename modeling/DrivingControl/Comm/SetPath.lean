import DrivingControl.Comm.SchProtocol

/-!
# The station list of a path

`SetPath` unpacks the payload of a `ServerSendPath` message: a count and eighteen
bytes for each station.  A payload too short for a count leaves the object as it was.
A station whose bytes are missing keeps what its memory held before, and nothing is
read for it.
-/

namespace DrivingControl.Comm

/-- `SetPath`. -/
structure SetPath where
  stationCount : UInt16 := 0
  stationList : List StationInfo := []
  deriving DecidableEq, Repr

/-- The fields of a station from its eighteen bytes. -/
def stationFields (data : List UInt8) : StationInfo :=
  let field (offset bytes : Nat) := buffer2Bin ((data.drop offset).take bytes)
  { id := (field 0 2).toUInt16
    xPos := field 2 4
    yPos := field 6 4
    pathAngle := (field 10 2).toUInt16
    turnRadius := (field 12 2).toUInt16
    mode := (field 14 1).toUInt8
    action := (field 15 1).toUInt8
    liftHeight := (field 16 2).toUInt16 }

namespace SetPath

/-- `GetStationInfo` on a station that holds `info`: the station and the number of bytes
read. -/
def getStationInfo (info : StationInfo) (data : List UInt8) : StationInfo × Nat :=
  if data.length < 18 then (info, 0) else (stationFields data, 18)

/-- The loop of `unPackData` for a number of stations still to come.  `fresh` is what the
memory of new stations holds. -/
def unPackStations (fresh : Nat → StationInfo) : Nat → List UInt8 → List StationInfo
  | 0, _ => []
  | left + 1, data =>
      if data = [] then []
      else
        let read := getStationInfo (fresh left) data
        read.1 :: unPackStations fresh left (data.drop read.2)

/-- `SetPath::unPackData`. -/
def unPackData (fresh : Nat → StationInfo) (data : List UInt8) (setPath : SetPath) : SetPath :=
  if data.length < 2 then setPath
  else
    let stationCount := (buffer2Bin (data.take 2)).toUInt16
    { stationCount
      stationList := unPackStations fresh stationCount.toNat (data.drop 2) }

end SetPath

/-- A frame with a path: its payload, and what the memory of its new stations held. -/
structure PathFrame where
  payload : List UInt8
  fresh : Nat → StationInfo

namespace PathFrame

/-- Whether the payload holds a count. -/
def fills (frame : PathFrame) : Bool := decide (2 ≤ frame.payload.length)

/-- The stations that the frame carries. -/
def stations (frame : PathFrame) : List StationInfo :=
  (SetPath.unPackData frame.fresh frame.payload {}).stationList

end PathFrame

/-- A payload with a count replaces the stations, any other one leaves them. -/
theorem SetPath.stationList_unPackData (frame : PathFrame) (setPath : SetPath) :
    (setPath.unPackData frame.fresh frame.payload).stationList =
      if frame.fills then frame.stations else setPath.stationList := by
  by_cases short : frame.payload.length < 2
  · simp [SetPath.unPackData, PathFrame.fills, short, Nat.not_le.mpr short]
  · simp [SetPath.unPackData, PathFrame.fills, PathFrame.stations, short, Nat.le_of_not_lt short]

end DrivingControl.Comm
