import HomeAgents.Agent.Config
import HomeAgents.Collection.Sorted

/-!
# The agents of the house

The configurations that are there without any file: one for small talk, which may hand the
conversation over, and one for each of the helper's jobs.
-/

namespace HomeAgents.Builtin

/-- The action that hands the conversation to another agent. -/
def delegateAction : String := "delegate"

/-- How every prompt begins. -/
def persona : String :=
  "You are BMO, a small, cheerful living video game console who helps around the house. " ++
    "Keep replies short and friendly. You may add one presentation tag such as [FACE:happy] " ++
    "or [EMOTION:excited]."

def agent (name displayName description prompt : String) (temperature historyWindow : Nat)
    (keywords : List String) : AgentConfig :=
  { AgentConfig.new name with
    displayName := some displayName
    description := some description
    systemPrompt := persona ++ "\n\n" ++ prompt
    temperature := AgentConfig.tenths temperature
    historyWindow := historyWindow
    keywords := keywords
    builtIn := true }

def calendar : AgentConfig :=
  { agent "calendar" "Calendar" "Reads and edits the household calendar."
      ("You look after the household calendar. Check the current time with the `now` tool " ++
       "before reasoning about \"today\" or \"tomorrow\". Confirm what you changed in one " ++
       "sentence.")
      3 6
      ["calendar", "schedule", "event", "events", "meeting", "appointment", "agenda"] with
    tools := ["now"]
    services := ["calendar"] }
  |>.withCommands "calendar" ["calendar_list", "calendar_create", "calendar_delete"]

def conversation : AgentConfig :=
  { agent "conversation" "BMO" "Chats, answers questions, and hands off to specialists."
      ("If the user asks for something another helper does better (calendar, design, music, " ++
       "smart_home, timer, weather), hand it over with a command block:\n```command\n" ++
       "\x7b\"action\": \"delegate\", \"params\": \x7b\"agent\": \"timer\", " ++
       "\"message\": \"set a 10 minute timer\"\x7d\x7d\n```\nOtherwise just chat.")
      8 10
      ["hello", "hi", "hey", "thanks", "joke", "story"] with
    canNest := true }

def design : AgentConfig :=
  { agent "design" "Design" "Looks through design notes and files in the workspace."
      ("You help with design notes and sketches stored in the workspace. You can use these " ++
       "tools:\n\x7btool_list\x7d\n\nLook before you answer. Never guess at file contents.")
      4 6
      ["design", "sketch", "drawing", "file", "files", "notes", "folder"] with
    tools := ["read_file", "list_directory"]
    promptStyle := .toolListing
    maxTurns := 4 }

def music : AgentConfig :=
  { agent "music" "Music" "Plays music and casts to the TV."
      "You are the house DJ. Start, pause, and skip music, change the volume, or cast to the TV."
      7 4
      ["music", "play", "song", "songs", "playlist", "album", "volume", "pause"] with
    services := ["music", "tv"] }
  |>.withCommands "music"
    ["music_play", "music_pause", "music_resume", "music_next", "music_volume"]
  |>.withCommands "tv" ["tv_cast"]

def smartHome : AgentConfig :=
  { agent "smart_home" "Smart Home" "Controls lights, plugs, and the TV."
      "You control the lights, smart plugs, and the TV. Only act on devices the user named."
      3 4
      ["light", "lights", "lamp", "plug", "tv", "television", "dim", "brightness"] with
    services := ["smart_home", "tv"] }
  |>.withCommands "smart_home" ["lights_on", "lights_off", "lights_color", "device_toggle"]
  |>.withCommands "tv" ["tv_power", "tv_input"]

def timer : AgentConfig :=
  { agent "timer" "Timer" "Sets timers and alarms."
      ("You set and cancel timers and alarms. Durations go in `minutes`; give each timer a " ++
       "short `label`.")
      2 4
      ["timer", "timers", "alarm", "remind", "minutes", "countdown"] with
    services := ["timers"] }
  |>.withCommands "timers" ["timer_set", "timer_cancel", "timer_list", "alarm_set"]

def weather : AgentConfig :=
  { agent "weather" "Weather" "Reports the weather and forecast."
      "You report the weather. Use the `now` tool when the user asks about a relative day."
      5 4
      ["weather", "forecast", "rain", "temperature", "sunny", "snow", "umbrella"] with
    tools := ["now"]
    services := ["weather"] }
  |>.withCommands "weather" ["weather_current", "weather_forecast"]

/-- The built-in agents by name. -/
def agents : Sorted AgentConfig :=
  Sorted.ofList
    ([calendar, conversation, design, music, smartHome, timer, weather].map fun c => (c.name, c))

end HomeAgents.Builtin
