import ApplianceCloud.Fields

namespace ApplianceCloud.Labels

def operationMode : Fields String :=
  [("@AC_MAIN_OPERATION_MODE_COOL_W", "Cool"),
   ("@AC_MAIN_OPERATION_MODE_DRY_W", "Dry"),
   ("@AC_MAIN_OPERATION_MODE_FAN_W", "Fan"),
   ("@AC_MAIN_OPERATION_MODE_HEAT_W", "Heat"),
   ("@AC_MAIN_OPERATION_MODE_AIRCLEAN_W", "Air Clean"),
   ("@AC_MAIN_OPERATION_MODE_ACO_W", "Auto"),
   ("@AC_MAIN_OPERATION_MODE_AI_W", "AI"),
   ("@AC_MAIN_OPERATION_MODE_ENERGY_SAVING_W", "Eco"),
   ("@AC_MAIN_OPERATION_MODE_AROMA_W", "Aroma"),
   ("@AC_MAIN_OPERATION_MODE_ANTIBUGS_W", "Anti Bugs")]

def fanSpeed : Fields String :=
  [("@AC_MAIN_WIND_STRENGTH_SLOW_W", "Slow"),
   ("@AC_MAIN_WIND_STRENGTH_SLOW_LOW_W", "Slower"),
   ("@AC_MAIN_WIND_STRENGTH_LOW_W", "Low"),
   ("@AC_MAIN_WIND_STRENGTH_LOW_MID_W", "Low Mid"),
   ("@AC_MAIN_WIND_STRENGTH_MID_W", "Mid"),
   ("@AC_MAIN_WIND_STRENGTH_MID_HIGH_W", "Mid High"),
   ("@AC_MAIN_WIND_STRENGTH_HIGH_W", "High"),
   ("@AC_MAIN_WIND_STRENGTH_POWER_W", "Power"),
   ("@AC_MAIN_WIND_STRENGTH_AUTO_W", "Auto"),
   ("@AC_MAIN_WIND_STRENGTH_NATURE_W", "Nature"),
   ("@AC_MAIN_WIND_STRENGTH_LOW_RIGHT_W", "Right Low"),
   ("@AC_MAIN_WIND_STRENGTH_MID_RIGHT_W", "Right Mid"),
   ("@AC_MAIN_WIND_STRENGTH_HIGH_RIGHT_W", "Right High"),
   ("@AC_MAIN_WIND_STRENGTH_LOW_LEFT_W", "Left Low"),
   ("@AC_MAIN_WIND_STRENGTH_MID_LEFT_W", "Left Mid"),
   ("@AC_MAIN_WIND_STRENGTH_HIGH_LEFT_W", "Left High")]

def washerState : Fields String :=
  [("@WM_STATE_POWER_OFF_W", "Off"),
   ("@WM_STATE_INITIAL_W", "Initial"),
   ("@WM_STATE_PAUSE_W", "Pause"),
   ("@WM_STATE_RESERVE_W", "Reserve"),
   ("@WM_STATE_DETECTING_W", "Detecting"),
   ("@WM_STATE_RUNNING_W", "Running"),
   ("@WM_STATE_RINSING_W", "Rinsing"),
   ("@WM_STATE_SPINNING_W", "Spinning"),
   ("@WM_STATE_COOLDOWN_W", "Cool Down"),
   ("@WM_STATE_RINSEHOLD_W", "Rinse Hold"),
   ("@WM_STATE_WASH_REFRESHING_W", "Refreshing"),
   ("@WM_STATE_STEAMSOFTENING_W", "Steam Softening"),
   ("@WM_STATE_END_W", "End"),
   ("@WM_STATE_DRYING_W", "Drying"),
   ("@WM_STATE_DEMO_W", "Demonstration"),
   ("@WM_STATE_ERROR_W", "Error")]

def washerTemperature : Fields String :=
  [("@WM_TERM_NO_SELECT_W", "Not Selected"),
   ("@WM_TITAN2_OPTION_TEMP_20_W", "20"),
   ("@WM_TITAN2_OPTION_TEMP_COLD_W", "Cold"),
   ("@WM_TITAN2_OPTION_TEMP_30_W", "30"),
   ("@WM_TITAN2_OPTION_TEMP_40_W", "40"),
   ("@WM_TITAN2_OPTION_TEMP_50_W", "50"),
   ("@WM_TITAN2_OPTION_TEMP_60_W", "60"),
   ("@WM_TITAN2_OPTION_TEMP_95_W", "95")]

def dryerState : Fields String :=
  [("@WM_STATE_POWER_OFF_W", "Off"),
   ("@WM_STATE_INITIAL_W", "Initial"),
   ("@WM_STATE_PAUSE_W", "Pause"),
   ("@WM_STATE_RUNNING_W", "Running"),
   ("@WM_STATE_RESERVE_W", "Reserve"),
   ("@WM_STATE_ERROR_W", "Error"),
   ("@WM_STATE_SMART_DIAGNOSIS_W", "Smart Diagnosis")]

def dryerProcessState : Fields String :=
  [("@WM_STATE_DETECTING_W", "Detecting"),
   ("@WM_STATE_STEAM_W", "Steam"),
   ("@WM_STATE_DRY_W", "Drying"),
   ("@WM_STATE_COOLING_W", "Cool"),
   ("@WM_STATE_ANTI_CREASE_W", "Anti Crease"),
   ("@WM_STATE_END_W", "End")]

def dryLevel : Fields String :=
  [("-", "-"),
   ("@WM_DRY24_DRY_LEVEL_IRON_W", "Iron"),
   ("@WM_DRY24_DRY_LEVEL_CUPBOARD_W", "Cup Board"),
   ("@WM_DRY24_DRY_LEVEL_EXTRA_W", "Extra")]

end ApplianceCloud.Labels
