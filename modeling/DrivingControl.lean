import DrivingControl.Comm.FrameRoundTrip
import DrivingControl.Comm.MarkerSearch
import DrivingControl.Comm.SchProtocol
import DrivingControl.Comm.SingleByteDamage
import DrivingControl.Controler.Acknowledgements
import DrivingControl.Controler.Arrivals
import DrivingControl.Controler.ChargeInterlock
import DrivingControl.Controler.CommandOrder
import DrivingControl.Controler.LastStation
import DrivingControl.Controler.LiftTasks
import DrivingControl.Controler.NetworkDrop
import DrivingControl.Controler.NewPaths
import DrivingControl.Controler.NullWayPoints
import DrivingControl.Controler.ReportedMode
import DrivingControl.Controler.Restart
import DrivingControl.Controler.Resumption
import DrivingControl.Controler.Scheduler
import DrivingControl.Controler.SensorFlag
import DrivingControl.Controler.StationActions
import DrivingControl.Controler.SteeringBaseControler
import DrivingControl.Controler.StopLatch
import DrivingControl.Controler.Stopping
import DrivingControl.Controler.TargetEnds
import DrivingControl.Devices.CanPackages
import DrivingControl.Devices.DownLoadBin
import DrivingControl.Event.EventQueue
import DrivingControl.Comm.MalformedFrames
import DrivingControl.Comm.PathStations
import DrivingControl.Controler.CommandHandlers
import DrivingControl.Comm.SocketServer
import DrivingControl.Controler.BarrierSpeed
import DrivingControl.Controler.FinalSegment
import DrivingControl.Controler.RejectedTargets
import DrivingControl.Controler.SlowingDown
import DrivingControl.Comm.AckRecords
import DrivingControl.Controler.SpeedRamps
import DrivingControl.Controler.Rotation
import DrivingControl.Controler.SteerCalibration
import DrivingControl.Controler.LiftWaits
import DrivingControl.Controler.PlannerCursor
import DrivingControl.Controler.ErrorDump
import DrivingControl.Controler.PathReload
import DrivingControl.Devices.SingleFrames
import DrivingControl.Devices.FrameBounds
import DrivingControl.Devices.PanelTexts
import DrivingControl.Devices.PanelExchange
import DrivingControl.Devices.PanelSettings
import DrivingControl.Devices.LidarSensor
import DrivingControl.Controler.BatteryValues
import DrivingControl.Controler.LostPosition
import DrivingControl.Devices.BarrierDistance
import DrivingControl.Controler.ObstacleLevels
import DrivingControl.Comm.Finder
import DrivingControl.Devices.DownLoadEnd
import DrivingControl.Comm.EscapeCodec
import DrivingControl.Comm.BigEndian
import DrivingControl.Utils.MathUtils
import DrivingControl.Controler.MotionTurns
import DrivingControl.Controler.StaleDeceleration
import DrivingControl.Controler.AttitudeAdjust
import DrivingControl.Controler.NetworkReports
import DrivingControl.Controler.ClientMessages
import DrivingControl.Comm.Discovery
import DrivingControl.Controler.StrayCommands
import DrivingControl.Controler.NearBarrier
import DrivingControl.Controler.SteerKinematics
