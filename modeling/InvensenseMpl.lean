import InvensenseMpl.Basic
import InvensenseMpl.Orientation
import InvensenseMpl.State
import InvensenseMpl.Calibration
import InvensenseMpl.DmpCal
import InvensenseMpl.DmpMount
import InvensenseMpl.Mpu6050Config
import InvensenseMpl.ResetMotion
import InvensenseMpl.BiasSources
import InvensenseMpl.Session
import InvensenseMpl.ApplyCalibration
import InvensenseMpl.Callback
import InvensenseMpl.CallbackRefinement
import InvensenseMpl.Interrupts
import InvensenseMpl.Fusion
import InvensenseMpl.MpuSensors
import InvensenseMpl.NoMotion
import InvensenseMpl.Ownership
import InvensenseMpl.Library
import InvensenseMpl.DmpImage
