import AnovaOven.Laws.Anchors
import AnovaOven.Laws.ApiClient
import AnovaOven.Laws.Browse
import AnovaOven.Laws.Button
import AnovaOven.Laws.Channels
import AnovaOven.Laws.Cloud
import AnovaOven.Laws.Codec
import AnovaOven.Laws.Commands
import AnovaOven.Laws.CookProgress
import AnovaOven.Laws.CookTimeline
import AnovaOven.Laws.Crash
import AnovaOven.Laws.CurrentCook
import AnovaOven.Laws.Device
import AnovaOven.Laws.Durations
import AnovaOven.Laws.Encoder
import AnovaOven.Laws.Failures
import AnovaOven.Laws.Firestore
import AnovaOven.Laws.FitLines
import AnovaOven.Laws.HistoryOrder
import AnovaOven.Laws.Ids
import AnovaOven.Laws.Liveness
import AnovaOven.Laws.Manual
import AnovaOven.Laws.Marquee
import AnovaOven.Laws.Metrics
import AnovaOven.Laws.Milestones
import AnovaOven.Laws.Mqtt
import AnovaOven.Laws.MqttRecipes
import AnovaOven.Laws.Oled
import AnovaOven.Laws.OvenLog
import AnovaOven.Laws.PanicMessage
import AnovaOven.Laws.Posts
import AnovaOven.Laws.Preheat
import AnovaOven.Laws.ReadModel
import AnovaOven.Laws.RecipeMap
import AnovaOven.Laws.ResetReasons
import AnovaOven.Laws.ResetRing
import AnovaOven.Laws.SavedCook
import AnovaOven.Laws.Saves
import AnovaOven.Laws.Scheduler
import AnovaOven.Laws.ScreenTimes
import AnovaOven.Laws.Screens
import AnovaOven.Laws.Sharp
import AnovaOven.Laws.Steps
import AnovaOven.Laws.Telemetry
import AnovaOven.Laws.Tft
import AnovaOven.Laws.TurnOff
import AnovaOven.Laws.Upstream
import AnovaOven.Laws.Wire
import AnovaOven.Laws.WrapLines
