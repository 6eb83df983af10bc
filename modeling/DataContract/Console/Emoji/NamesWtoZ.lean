/-
The names of emoji that start with `w` to `z`.
-/
namespace DataContract.Console.Emoji

/-- The emoji whose names start with `w` to `z`. -/
def namesWtoZ : List (String × String) := [
  ("waffle", "🧇"), ("wales", "🏴󠁧󠁢󠁷󠁬󠁳󠁿"), ("walking", "🚶"), ("wallis_&_futuna", "🇼🇫"),
  ("waning_crescent_moon", "🌘"), ("waning_gibbous_moon", "🌖"), ("warning", "⚠"),
  ("wastebasket", "🗑"), ("watch", "⌚"), ("water_buffalo", "🐃"), ("water_closet", "🚾"),
  ("water_wave", "🌊"), ("watermelon", "🍉"), ("wave", "👋"), ("waving_black_flag", "🏴"),
  ("waving_hand", "👋"), ("waving_hand_dark_skin_tone", "👋🏿"), ("waving_hand_light_skin_tone", "👋🏻"),
  ("waving_hand_medium-dark_skin_tone", "👋🏾"), ("waving_hand_medium-light_skin_tone", "👋🏼"),
  ("waving_hand_medium_skin_tone", "👋🏽"), ("waving_white_flag", "🏳"), ("wavy_dash", "〰"),
  ("waxing_crescent_moon", "🌒"), ("waxing_gibbous_moon", "🌔"), ("wc", "🚾"), ("weary", "😩"),
  ("weary_cat_face", "🙀"), ("weary_face", "😩"), ("wedding", "💒"), ("weight_lifter", "🏋"),
  ("western_sahara", "🇪🇭"), ("whale", "🐳"), ("whale2", "🐋"), ("wheel_of_dharma", "☸"),
  ("wheelchair", "♿"), ("wheelchair_symbol", "♿"), ("white-haired_man", "👨\u200d🦳"),
  ("white-haired_woman", "👩\u200d🦳"), ("white_check_mark", "✅"), ("white_circle", "⚪"),
  ("white_exclamation_mark", "❕"), ("white_flag", "🏳"), ("white_flower", "💮"),
  ("white_frowning_face", "☹"), ("white_hair", "🦳"), ("white_heart", "🤍"),
  ("white_heavy_check_mark", "✅"), ("white_large_square", "⬜"), ("white_medium-small_square", "◽"),
  ("white_medium_small_square", "◽"), ("white_medium_square", "◻"), ("white_medium_star", "⭐"),
  ("white_question_mark", "❔"), ("white_small_square", "▫"), ("white_square_button", "🔳"),
  ("white_sun_behind_cloud", "🌥"), ("white_sun_behind_cloud_with_rain", "🌦"),
  ("white_sun_with_small_cloud", "🌤"), ("wilted_flower", "🥀"), ("wind_blowing_face", "🌬"),
  ("wind_chime", "🎐"), ("wind_face", "🌬"), ("wine_glass", "🍷"), ("wink", "😉"),
  ("winking_face", "😉"), ("winking_face_with_tongue", "😜"), ("wolf", "🐺"), ("wolf_face", "🐺"),
  ("woman", "👩"), ("woman_artist", "👩\u200d🎨"), ("woman_artist_dark_skin_tone", "👩🏿\u200d🎨"),
  ("woman_artist_light_skin_tone", "👩🏻\u200d🎨"),
  ("woman_artist_medium-dark_skin_tone", "👩🏾\u200d🎨"),
  ("woman_artist_medium-light_skin_tone", "👩🏼\u200d🎨"),
  ("woman_artist_medium_skin_tone", "👩🏽\u200d🎨"), ("woman_astronaut", "👩\u200d🚀"),
  ("woman_astronaut_dark_skin_tone", "👩🏿\u200d🚀"), ("woman_astronaut_light_skin_tone", "👩🏻\u200d🚀"),
  ("woman_astronaut_medium-dark_skin_tone", "👩🏾\u200d🚀"),
  ("woman_astronaut_medium-light_skin_tone", "👩🏼\u200d🚀"),
  ("woman_astronaut_medium_skin_tone", "👩🏽\u200d🚀"), ("woman_biking", "🚴\u200d♀\ufe0f"),
  ("woman_biking_dark_skin_tone", "🚴🏿\u200d♀\ufe0f"),
  ("woman_biking_light_skin_tone", "🚴🏻\u200d♀\ufe0f"),
  ("woman_biking_medium-dark_skin_tone", "🚴🏾\u200d♀\ufe0f"),
  ("woman_biking_medium-light_skin_tone", "🚴🏼\u200d♀\ufe0f"),
  ("woman_biking_medium_skin_tone", "🚴🏽\u200d♀\ufe0f"),
  ("woman_bouncing_ball", "⛹\ufe0f\u200d♀\ufe0f"),
  ("woman_bouncing_ball_dark_skin_tone", "⛹🏿\u200d♀\ufe0f"),
  ("woman_bouncing_ball_light_skin_tone", "⛹🏻\u200d♀\ufe0f"),
  ("woman_bouncing_ball_medium-dark_skin_tone", "⛹🏾\u200d♀\ufe0f"),
  ("woman_bouncing_ball_medium-light_skin_tone", "⛹🏼\u200d♀\ufe0f"),
  ("woman_bouncing_ball_medium_skin_tone", "⛹🏽\u200d♀\ufe0f"), ("woman_bowing", "🙇\u200d♀\ufe0f"),
  ("woman_bowing_dark_skin_tone", "🙇🏿\u200d♀\ufe0f"),
  ("woman_bowing_light_skin_tone", "🙇🏻\u200d♀\ufe0f"),
  ("woman_bowing_medium-dark_skin_tone", "🙇🏾\u200d♀\ufe0f"),
  ("woman_bowing_medium-light_skin_tone", "🙇🏼\u200d♀\ufe0f"),
  ("woman_bowing_medium_skin_tone", "🙇🏽\u200d♀\ufe0f"), ("woman_cartwheeling", "🤸\u200d♀\ufe0f"),
  ("woman_cartwheeling_dark_skin_tone", "🤸🏿\u200d♀\ufe0f"),
  ("woman_cartwheeling_light_skin_tone", "🤸🏻\u200d♀\ufe0f"),
  ("woman_cartwheeling_medium-dark_skin_tone", "🤸🏾\u200d♀\ufe0f"),
  ("woman_cartwheeling_medium-light_skin_tone", "🤸🏼\u200d♀\ufe0f"),
  ("woman_cartwheeling_medium_skin_tone", "🤸🏽\u200d♀\ufe0f"), ("woman_climbing", "🧗\u200d♀\ufe0f"),
  ("woman_climbing_dark_skin_tone", "🧗🏿\u200d♀\ufe0f"),
  ("woman_climbing_light_skin_tone", "🧗🏻\u200d♀\ufe0f"),
  ("woman_climbing_medium-dark_skin_tone", "🧗🏾\u200d♀\ufe0f"),
  ("woman_climbing_medium-light_skin_tone", "🧗🏼\u200d♀\ufe0f"),
  ("woman_climbing_medium_skin_tone", "🧗🏽\u200d♀\ufe0f"),
  ("woman_construction_worker", "👷\u200d♀\ufe0f"),
  ("woman_construction_worker_dark_skin_tone", "👷🏿\u200d♀\ufe0f"),
  ("woman_construction_worker_light_skin_tone", "👷🏻\u200d♀\ufe0f"),
  ("woman_construction_worker_medium-dark_skin_tone", "👷🏾\u200d♀\ufe0f"),
  ("woman_construction_worker_medium-light_skin_tone", "👷🏼\u200d♀\ufe0f"),
  ("woman_construction_worker_medium_skin_tone", "👷🏽\u200d♀\ufe0f"), ("woman_cook", "👩\u200d🍳"),
  ("woman_cook_dark_skin_tone", "👩🏿\u200d🍳"), ("woman_cook_light_skin_tone", "👩🏻\u200d🍳"),
  ("woman_cook_medium-dark_skin_tone", "👩🏾\u200d🍳"),
  ("woman_cook_medium-light_skin_tone", "👩🏼\u200d🍳"), ("woman_cook_medium_skin_tone", "👩🏽\u200d🍳"),
  ("woman_dancing", "💃"), ("woman_dancing_dark_skin_tone", "💃🏿"),
  ("woman_dancing_light_skin_tone", "💃🏻"), ("woman_dancing_medium-dark_skin_tone", "💃🏾"),
  ("woman_dancing_medium-light_skin_tone", "💃🏼"), ("woman_dancing_medium_skin_tone", "💃🏽"),
  ("woman_dark_skin_tone", "👩🏿"), ("woman_detective", "🕵\ufe0f\u200d♀\ufe0f"),
  ("woman_detective_dark_skin_tone", "🕵🏿\u200d♀\ufe0f"),
  ("woman_detective_light_skin_tone", "🕵🏻\u200d♀\ufe0f"),
  ("woman_detective_medium-dark_skin_tone", "🕵🏾\u200d♀\ufe0f"),
  ("woman_detective_medium-light_skin_tone", "🕵🏼\u200d♀\ufe0f"),
  ("woman_detective_medium_skin_tone", "🕵🏽\u200d♀\ufe0f"), ("woman_elf", "🧝\u200d♀\ufe0f"),
  ("woman_elf_dark_skin_tone", "🧝🏿\u200d♀\ufe0f"), ("woman_elf_light_skin_tone", "🧝🏻\u200d♀\ufe0f"),
  ("woman_elf_medium-dark_skin_tone", "🧝🏾\u200d♀\ufe0f"),
  ("woman_elf_medium-light_skin_tone", "🧝🏼\u200d♀\ufe0f"),
  ("woman_elf_medium_skin_tone", "🧝🏽\u200d♀\ufe0f"), ("woman_facepalming", "🤦\u200d♀\ufe0f"),
  ("woman_facepalming_dark_skin_tone", "🤦🏿\u200d♀\ufe0f"),
  ("woman_facepalming_light_skin_tone", "🤦🏻\u200d♀\ufe0f"),
  ("woman_facepalming_medium-dark_skin_tone", "🤦🏾\u200d♀\ufe0f"),
  ("woman_facepalming_medium-light_skin_tone", "🤦🏼\u200d♀\ufe0f"),
  ("woman_facepalming_medium_skin_tone", "🤦🏽\u200d♀\ufe0f"), ("woman_factory_worker", "👩\u200d🏭"),
  ("woman_factory_worker_dark_skin_tone", "👩🏿\u200d🏭"),
  ("woman_factory_worker_light_skin_tone", "👩🏻\u200d🏭"),
  ("woman_factory_worker_medium-dark_skin_tone", "👩🏾\u200d🏭"),
  ("woman_factory_worker_medium-light_skin_tone", "👩🏼\u200d🏭"),
  ("woman_factory_worker_medium_skin_tone", "👩🏽\u200d🏭"), ("woman_fairy", "🧚\u200d♀\ufe0f"),
  ("woman_fairy_dark_skin_tone", "🧚🏿\u200d♀\ufe0f"),
  ("woman_fairy_light_skin_tone", "🧚🏻\u200d♀\ufe0f"),
  ("woman_fairy_medium-dark_skin_tone", "🧚🏾\u200d♀\ufe0f"),
  ("woman_fairy_medium-light_skin_tone", "🧚🏼\u200d♀\ufe0f"),
  ("woman_fairy_medium_skin_tone", "🧚🏽\u200d♀\ufe0f"), ("woman_farmer", "👩\u200d🌾"),
  ("woman_farmer_dark_skin_tone", "👩🏿\u200d🌾"), ("woman_farmer_light_skin_tone", "👩🏻\u200d🌾"),
  ("woman_farmer_medium-dark_skin_tone", "👩🏾\u200d🌾"),
  ("woman_farmer_medium-light_skin_tone", "👩🏼\u200d🌾"),
  ("woman_farmer_medium_skin_tone", "👩🏽\u200d🌾"), ("woman_firefighter", "👩\u200d🚒"),
  ("woman_firefighter_dark_skin_tone", "👩🏿\u200d🚒"),
  ("woman_firefighter_light_skin_tone", "👩🏻\u200d🚒"),
  ("woman_firefighter_medium-dark_skin_tone", "👩🏾\u200d🚒"),
  ("woman_firefighter_medium-light_skin_tone", "👩🏼\u200d🚒"),
  ("woman_firefighter_medium_skin_tone", "👩🏽\u200d🚒"), ("woman_frowning", "🙍\u200d♀\ufe0f"),
  ("woman_frowning_dark_skin_tone", "🙍🏿\u200d♀\ufe0f"),
  ("woman_frowning_light_skin_tone", "🙍🏻\u200d♀\ufe0f"),
  ("woman_frowning_medium-dark_skin_tone", "🙍🏾\u200d♀\ufe0f"),
  ("woman_frowning_medium-light_skin_tone", "🙍🏼\u200d♀\ufe0f"),
  ("woman_frowning_medium_skin_tone", "🙍🏽\u200d♀\ufe0f"), ("woman_genie", "🧞\u200d♀\ufe0f"),
  ("woman_gesturing_no", "🙅\u200d♀\ufe0f"),
  ("woman_gesturing_no_dark_skin_tone", "🙅🏿\u200d♀\ufe0f"),
  ("woman_gesturing_no_light_skin_tone", "🙅🏻\u200d♀\ufe0f"),
  ("woman_gesturing_no_medium-dark_skin_tone", "🙅🏾\u200d♀\ufe0f"),
  ("woman_gesturing_no_medium-light_skin_tone", "🙅🏼\u200d♀\ufe0f"),
  ("woman_gesturing_no_medium_skin_tone", "🙅🏽\u200d♀\ufe0f"),
  ("woman_gesturing_ok", "🙆\u200d♀\ufe0f"),
  ("woman_gesturing_ok_dark_skin_tone", "🙆🏿\u200d♀\ufe0f"),
  ("woman_gesturing_ok_light_skin_tone", "🙆🏻\u200d♀\ufe0f"),
  ("woman_gesturing_ok_medium-dark_skin_tone", "🙆🏾\u200d♀\ufe0f"),
  ("woman_gesturing_ok_medium-light_skin_tone", "🙆🏼\u200d♀\ufe0f"),
  ("woman_gesturing_ok_medium_skin_tone", "🙆🏽\u200d♀\ufe0f"),
  ("woman_getting_haircut", "💇\u200d♀\ufe0f"),
  ("woman_getting_haircut_dark_skin_tone", "💇🏿\u200d♀\ufe0f"),
  ("woman_getting_haircut_light_skin_tone", "💇🏻\u200d♀\ufe0f"),
  ("woman_getting_haircut_medium-dark_skin_tone", "💇🏾\u200d♀\ufe0f"),
  ("woman_getting_haircut_medium-light_skin_tone", "💇🏼\u200d♀\ufe0f"),
  ("woman_getting_haircut_medium_skin_tone", "💇🏽\u200d♀\ufe0f"),
  ("woman_getting_massage", "💆\u200d♀\ufe0f"),
  ("woman_getting_massage_dark_skin_tone", "💆🏿\u200d♀\ufe0f"),
  ("woman_getting_massage_light_skin_tone", "💆🏻\u200d♀\ufe0f"),
  ("woman_getting_massage_medium-dark_skin_tone", "💆🏾\u200d♀\ufe0f"),
  ("woman_getting_massage_medium-light_skin_tone", "💆🏼\u200d♀\ufe0f"),
  ("woman_getting_massage_medium_skin_tone", "💆🏽\u200d♀\ufe0f"),
  ("woman_golfing", "🏌\ufe0f\u200d♀\ufe0f"), ("woman_golfing_dark_skin_tone", "🏌🏿\u200d♀\ufe0f"),
  ("woman_golfing_light_skin_tone", "🏌🏻\u200d♀\ufe0f"),
  ("woman_golfing_medium-dark_skin_tone", "🏌🏾\u200d♀\ufe0f"),
  ("woman_golfing_medium-light_skin_tone", "🏌🏼\u200d♀\ufe0f"),
  ("woman_golfing_medium_skin_tone", "🏌🏽\u200d♀\ufe0f"), ("woman_guard", "💂\u200d♀\ufe0f"),
  ("woman_guard_dark_skin_tone", "💂🏿\u200d♀\ufe0f"),
  ("woman_guard_light_skin_tone", "💂🏻\u200d♀\ufe0f"),
  ("woman_guard_medium-dark_skin_tone", "💂🏾\u200d♀\ufe0f"),
  ("woman_guard_medium-light_skin_tone", "💂🏼\u200d♀\ufe0f"),
  ("woman_guard_medium_skin_tone", "💂🏽\u200d♀\ufe0f"), ("woman_health_worker", "👩\u200d⚕\ufe0f"),
  ("woman_health_worker_dark_skin_tone", "👩🏿\u200d⚕\ufe0f"),
  ("woman_health_worker_light_skin_tone", "👩🏻\u200d⚕\ufe0f"),
  ("woman_health_worker_medium-dark_skin_tone", "👩🏾\u200d⚕\ufe0f"),
  ("woman_health_worker_medium-light_skin_tone", "👩🏼\u200d⚕\ufe0f"),
  ("woman_health_worker_medium_skin_tone", "👩🏽\u200d⚕\ufe0f"),
  ("woman_in_lotus_position", "🧘\u200d♀\ufe0f"),
  ("woman_in_lotus_position_dark_skin_tone", "🧘🏿\u200d♀\ufe0f"),
  ("woman_in_lotus_position_light_skin_tone", "🧘🏻\u200d♀\ufe0f"),
  ("woman_in_lotus_position_medium-dark_skin_tone", "🧘🏾\u200d♀\ufe0f"),
  ("woman_in_lotus_position_medium-light_skin_tone", "🧘🏼\u200d♀\ufe0f"),
  ("woman_in_lotus_position_medium_skin_tone", "🧘🏽\u200d♀\ufe0f"),
  ("woman_in_manual_wheelchair", "👩\u200d🦽"), ("woman_in_motorized_wheelchair", "👩\u200d🦼"),
  ("woman_in_steamy_room", "🧖\u200d♀\ufe0f"),
  ("woman_in_steamy_room_dark_skin_tone", "🧖🏿\u200d♀\ufe0f"),
  ("woman_in_steamy_room_light_skin_tone", "🧖🏻\u200d♀\ufe0f"),
  ("woman_in_steamy_room_medium-dark_skin_tone", "🧖🏾\u200d♀\ufe0f"),
  ("woman_in_steamy_room_medium-light_skin_tone", "🧖🏼\u200d♀\ufe0f"),
  ("woman_in_steamy_room_medium_skin_tone", "🧖🏽\u200d♀\ufe0f"), ("woman_judge", "👩\u200d⚖\ufe0f"),
  ("woman_judge_dark_skin_tone", "👩🏿\u200d⚖\ufe0f"),
  ("woman_judge_light_skin_tone", "👩🏻\u200d⚖\ufe0f"),
  ("woman_judge_medium-dark_skin_tone", "👩🏾\u200d⚖\ufe0f"),
  ("woman_judge_medium-light_skin_tone", "👩🏼\u200d⚖\ufe0f"),
  ("woman_judge_medium_skin_tone", "👩🏽\u200d⚖\ufe0f"), ("woman_juggling", "🤹\u200d♀\ufe0f"),
  ("woman_juggling_dark_skin_tone", "🤹🏿\u200d♀\ufe0f"),
  ("woman_juggling_light_skin_tone", "🤹🏻\u200d♀\ufe0f"),
  ("woman_juggling_medium-dark_skin_tone", "🤹🏾\u200d♀\ufe0f"),
  ("woman_juggling_medium-light_skin_tone", "🤹🏼\u200d♀\ufe0f"),
  ("woman_juggling_medium_skin_tone", "🤹🏽\u200d♀\ufe0f"),
  ("woman_lifting_weights", "🏋\ufe0f\u200d♀\ufe0f"),
  ("woman_lifting_weights_dark_skin_tone", "🏋🏿\u200d♀\ufe0f"),
  ("woman_lifting_weights_light_skin_tone", "🏋🏻\u200d♀\ufe0f"),
  ("woman_lifting_weights_medium-dark_skin_tone", "🏋🏾\u200d♀\ufe0f"),
  ("woman_lifting_weights_medium-light_skin_tone", "🏋🏼\u200d♀\ufe0f"),
  ("woman_lifting_weights_medium_skin_tone", "🏋🏽\u200d♀\ufe0f"), ("woman_light_skin_tone", "👩🏻"),
  ("woman_mage", "🧙\u200d♀\ufe0f"), ("woman_mage_dark_skin_tone", "🧙🏿\u200d♀\ufe0f"),
  ("woman_mage_light_skin_tone", "🧙🏻\u200d♀\ufe0f"),
  ("woman_mage_medium-dark_skin_tone", "🧙🏾\u200d♀\ufe0f"),
  ("woman_mage_medium-light_skin_tone", "🧙🏼\u200d♀\ufe0f"),
  ("woman_mage_medium_skin_tone", "🧙🏽\u200d♀\ufe0f"), ("woman_mechanic", "👩\u200d🔧"),
  ("woman_mechanic_dark_skin_tone", "👩🏿\u200d🔧"), ("woman_mechanic_light_skin_tone", "👩🏻\u200d🔧"),
  ("woman_mechanic_medium-dark_skin_tone", "👩🏾\u200d🔧"),
  ("woman_mechanic_medium-light_skin_tone", "👩🏼\u200d🔧"),
  ("woman_mechanic_medium_skin_tone", "👩🏽\u200d🔧"), ("woman_medium-dark_skin_tone", "👩🏾"),
  ("woman_medium-light_skin_tone", "👩🏼"), ("woman_medium_skin_tone", "👩🏽"),
  ("woman_mountain_biking", "🚵\u200d♀\ufe0f"),
  ("woman_mountain_biking_dark_skin_tone", "🚵🏿\u200d♀\ufe0f"),
  ("woman_mountain_biking_light_skin_tone", "🚵🏻\u200d♀\ufe0f"),
  ("woman_mountain_biking_medium-dark_skin_tone", "🚵🏾\u200d♀\ufe0f"),
  ("woman_mountain_biking_medium-light_skin_tone", "🚵🏼\u200d♀\ufe0f"),
  ("woman_mountain_biking_medium_skin_tone", "🚵🏽\u200d♀\ufe0f"),
  ("woman_office_worker", "👩\u200d💼"), ("woman_office_worker_dark_skin_tone", "👩🏿\u200d💼"),
  ("woman_office_worker_light_skin_tone", "👩🏻\u200d💼"),
  ("woman_office_worker_medium-dark_skin_tone", "👩🏾\u200d💼"),
  ("woman_office_worker_medium-light_skin_tone", "👩🏼\u200d💼"),
  ("woman_office_worker_medium_skin_tone", "👩🏽\u200d💼"), ("woman_pilot", "👩\u200d✈\ufe0f"),
  ("woman_pilot_dark_skin_tone", "👩🏿\u200d✈\ufe0f"),
  ("woman_pilot_light_skin_tone", "👩🏻\u200d✈\ufe0f"),
  ("woman_pilot_medium-dark_skin_tone", "👩🏾\u200d✈\ufe0f"),
  ("woman_pilot_medium-light_skin_tone", "👩🏼\u200d✈\ufe0f"),
  ("woman_pilot_medium_skin_tone", "👩🏽\u200d✈\ufe0f"), ("woman_playing_handball", "🤾\u200d♀\ufe0f"),
  ("woman_playing_handball_dark_skin_tone", "🤾🏿\u200d♀\ufe0f"),
  ("woman_playing_handball_light_skin_tone", "🤾🏻\u200d♀\ufe0f"),
  ("woman_playing_handball_medium-dark_skin_tone", "🤾🏾\u200d♀\ufe0f"),
  ("woman_playing_handball_medium-light_skin_tone", "🤾🏼\u200d♀\ufe0f"),
  ("woman_playing_handball_medium_skin_tone", "🤾🏽\u200d♀\ufe0f"),
  ("woman_playing_water_polo", "🤽\u200d♀\ufe0f"),
  ("woman_playing_water_polo_dark_skin_tone", "🤽🏿\u200d♀\ufe0f"),
  ("woman_playing_water_polo_light_skin_tone", "🤽🏻\u200d♀\ufe0f"),
  ("woman_playing_water_polo_medium-dark_skin_tone", "🤽🏾\u200d♀\ufe0f"),
  ("woman_playing_water_polo_medium-light_skin_tone", "🤽🏼\u200d♀\ufe0f"),
  ("woman_playing_water_polo_medium_skin_tone", "🤽🏽\u200d♀\ufe0f"),
  ("woman_police_officer", "👮\u200d♀\ufe0f"),
  ("woman_police_officer_dark_skin_tone", "👮🏿\u200d♀\ufe0f"),
  ("woman_police_officer_light_skin_tone", "👮🏻\u200d♀\ufe0f"),
  ("woman_police_officer_medium-dark_skin_tone", "👮🏾\u200d♀\ufe0f"),
  ("woman_police_officer_medium-light_skin_tone", "👮🏼\u200d♀\ufe0f"),
  ("woman_police_officer_medium_skin_tone", "👮🏽\u200d♀\ufe0f"), ("woman_pouting", "🙎\u200d♀\ufe0f"),
  ("woman_pouting_dark_skin_tone", "🙎🏿\u200d♀\ufe0f"),
  ("woman_pouting_light_skin_tone", "🙎🏻\u200d♀\ufe0f"),
  ("woman_pouting_medium-dark_skin_tone", "🙎🏾\u200d♀\ufe0f"),
  ("woman_pouting_medium-light_skin_tone", "🙎🏼\u200d♀\ufe0f"),
  ("woman_pouting_medium_skin_tone", "🙎🏽\u200d♀\ufe0f"), ("woman_raising_hand", "🙋\u200d♀\ufe0f"),
  ("woman_raising_hand_dark_skin_tone", "🙋🏿\u200d♀\ufe0f"),
  ("woman_raising_hand_light_skin_tone", "🙋🏻\u200d♀\ufe0f"),
  ("woman_raising_hand_medium-dark_skin_tone", "🙋🏾\u200d♀\ufe0f"),
  ("woman_raising_hand_medium-light_skin_tone", "🙋🏼\u200d♀\ufe0f"),
  ("woman_raising_hand_medium_skin_tone", "🙋🏽\u200d♀\ufe0f"),
  ("woman_rowing_boat", "🚣\u200d♀\ufe0f"), ("woman_rowing_boat_dark_skin_tone", "🚣🏿\u200d♀\ufe0f"),
  ("woman_rowing_boat_light_skin_tone", "🚣🏻\u200d♀\ufe0f"),
  ("woman_rowing_boat_medium-dark_skin_tone", "🚣🏾\u200d♀\ufe0f"),
  ("woman_rowing_boat_medium-light_skin_tone", "🚣🏼\u200d♀\ufe0f"),
  ("woman_rowing_boat_medium_skin_tone", "🚣🏽\u200d♀\ufe0f"), ("woman_running", "🏃\u200d♀\ufe0f"),
  ("woman_running_dark_skin_tone", "🏃🏿\u200d♀\ufe0f"),
  ("woman_running_light_skin_tone", "🏃🏻\u200d♀\ufe0f"),
  ("woman_running_medium-dark_skin_tone", "🏃🏾\u200d♀\ufe0f"),
  ("woman_running_medium-light_skin_tone", "🏃🏼\u200d♀\ufe0f"),
  ("woman_running_medium_skin_tone", "🏃🏽\u200d♀\ufe0f"), ("woman_scientist", "👩\u200d🔬"),
  ("woman_scientist_dark_skin_tone", "👩🏿\u200d🔬"), ("woman_scientist_light_skin_tone", "👩🏻\u200d🔬"),
  ("woman_scientist_medium-dark_skin_tone", "👩🏾\u200d🔬"),
  ("woman_scientist_medium-light_skin_tone", "👩🏼\u200d🔬"),
  ("woman_scientist_medium_skin_tone", "👩🏽\u200d🔬"), ("woman_shrugging", "🤷\u200d♀\ufe0f"),
  ("woman_shrugging_dark_skin_tone", "🤷🏿\u200d♀\ufe0f"),
  ("woman_shrugging_light_skin_tone", "🤷🏻\u200d♀\ufe0f"),
  ("woman_shrugging_medium-dark_skin_tone", "🤷🏾\u200d♀\ufe0f"),
  ("woman_shrugging_medium-light_skin_tone", "🤷🏼\u200d♀\ufe0f"),
  ("woman_shrugging_medium_skin_tone", "🤷🏽\u200d♀\ufe0f"), ("woman_singer", "👩\u200d🎤"),
  ("woman_singer_dark_skin_tone", "👩🏿\u200d🎤"), ("woman_singer_light_skin_tone", "👩🏻\u200d🎤"),
  ("woman_singer_medium-dark_skin_tone", "👩🏾\u200d🎤"),
  ("woman_singer_medium-light_skin_tone", "👩🏼\u200d🎤"),
  ("woman_singer_medium_skin_tone", "👩🏽\u200d🎤"), ("woman_student", "👩\u200d🎓"),
  ("woman_student_dark_skin_tone", "👩🏿\u200d🎓"), ("woman_student_light_skin_tone", "👩🏻\u200d🎓"),
  ("woman_student_medium-dark_skin_tone", "👩🏾\u200d🎓"),
  ("woman_student_medium-light_skin_tone", "👩🏼\u200d🎓"),
  ("woman_student_medium_skin_tone", "👩🏽\u200d🎓"), ("woman_surfing", "🏄\u200d♀\ufe0f"),
  ("woman_surfing_dark_skin_tone", "🏄🏿\u200d♀\ufe0f"),
  ("woman_surfing_light_skin_tone", "🏄🏻\u200d♀\ufe0f"),
  ("woman_surfing_medium-dark_skin_tone", "🏄🏾\u200d♀\ufe0f"),
  ("woman_surfing_medium-light_skin_tone", "🏄🏼\u200d♀\ufe0f"),
  ("woman_surfing_medium_skin_tone", "🏄🏽\u200d♀\ufe0f"), ("woman_swimming", "🏊\u200d♀\ufe0f"),
  ("woman_swimming_dark_skin_tone", "🏊🏿\u200d♀\ufe0f"),
  ("woman_swimming_light_skin_tone", "🏊🏻\u200d♀\ufe0f"),
  ("woman_swimming_medium-dark_skin_tone", "🏊🏾\u200d♀\ufe0f"),
  ("woman_swimming_medium-light_skin_tone", "🏊🏼\u200d♀\ufe0f"),
  ("woman_swimming_medium_skin_tone", "🏊🏽\u200d♀\ufe0f"), ("woman_teacher", "👩\u200d🏫"),
  ("woman_teacher_dark_skin_tone", "👩🏿\u200d🏫"), ("woman_teacher_light_skin_tone", "👩🏻\u200d🏫"),
  ("woman_teacher_medium-dark_skin_tone", "👩🏾\u200d🏫"),
  ("woman_teacher_medium-light_skin_tone", "👩🏼\u200d🏫"),
  ("woman_teacher_medium_skin_tone", "👩🏽\u200d🏫"), ("woman_technologist", "👩\u200d💻"),
  ("woman_technologist_dark_skin_tone", "👩🏿\u200d💻"),
  ("woman_technologist_light_skin_tone", "👩🏻\u200d💻"),
  ("woman_technologist_medium-dark_skin_tone", "👩🏾\u200d💻"),
  ("woman_technologist_medium-light_skin_tone", "👩🏼\u200d💻"),
  ("woman_technologist_medium_skin_tone", "👩🏽\u200d💻"), ("woman_tipping_hand", "💁\u200d♀\ufe0f"),
  ("woman_tipping_hand_dark_skin_tone", "💁🏿\u200d♀\ufe0f"),
  ("woman_tipping_hand_light_skin_tone", "💁🏻\u200d♀\ufe0f"),
  ("woman_tipping_hand_medium-dark_skin_tone", "💁🏾\u200d♀\ufe0f"),
  ("woman_tipping_hand_medium-light_skin_tone", "💁🏼\u200d♀\ufe0f"),
  ("woman_tipping_hand_medium_skin_tone", "💁🏽\u200d♀\ufe0f"), ("woman_vampire", "🧛\u200d♀\ufe0f"),
  ("woman_vampire_dark_skin_tone", "🧛🏿\u200d♀\ufe0f"),
  ("woman_vampire_light_skin_tone", "🧛🏻\u200d♀\ufe0f"),
  ("woman_vampire_medium-dark_skin_tone", "🧛🏾\u200d♀\ufe0f"),
  ("woman_vampire_medium-light_skin_tone", "🧛🏼\u200d♀\ufe0f"),
  ("woman_vampire_medium_skin_tone", "🧛🏽\u200d♀\ufe0f"), ("woman_walking", "🚶\u200d♀\ufe0f"),
  ("woman_walking_dark_skin_tone", "🚶🏿\u200d♀\ufe0f"),
  ("woman_walking_light_skin_tone", "🚶🏻\u200d♀\ufe0f"),
  ("woman_walking_medium-dark_skin_tone", "🚶🏾\u200d♀\ufe0f"),
  ("woman_walking_medium-light_skin_tone", "🚶🏼\u200d♀\ufe0f"),
  ("woman_walking_medium_skin_tone", "🚶🏽\u200d♀\ufe0f"), ("woman_wearing_turban", "👳\u200d♀\ufe0f"),
  ("woman_wearing_turban_dark_skin_tone", "👳🏿\u200d♀\ufe0f"),
  ("woman_wearing_turban_light_skin_tone", "👳🏻\u200d♀\ufe0f"),
  ("woman_wearing_turban_medium-dark_skin_tone", "👳🏾\u200d♀\ufe0f"),
  ("woman_wearing_turban_medium-light_skin_tone", "👳🏼\u200d♀\ufe0f"),
  ("woman_wearing_turban_medium_skin_tone", "👳🏽\u200d♀\ufe0f"), ("woman_with_headscarf", "🧕"),
  ("woman_with_headscarf_dark_skin_tone", "🧕🏿"), ("woman_with_headscarf_light_skin_tone", "🧕🏻"),
  ("woman_with_headscarf_medium-dark_skin_tone", "🧕🏾"),
  ("woman_with_headscarf_medium-light_skin_tone", "🧕🏼"),
  ("woman_with_headscarf_medium_skin_tone", "🧕🏽"), ("woman_with_probing_cane", "👩\u200d🦯"),
  ("woman_zombie", "🧟\u200d♀\ufe0f"), ("womans_clothes", "👚"), ("womans_hat", "👒"),
  ("woman’s_boot", "👢"), ("woman’s_clothes", "👚"), ("woman’s_hat", "👒"), ("woman’s_sandal", "👡"),
  ("women_with_bunny_ears", "👯\u200d♀\ufe0f"), ("women_wrestling", "🤼\u200d♀\ufe0f"),
  ("womens", "🚺"), ("women’s_room", "🚺"), ("woozy_face", "🥴"), ("world_map", "🗺"), ("worried", "😟"),
  ("worried_face", "😟"), ("wrapped_gift", "🎁"), ("wrench", "🔧"), ("writing_hand", "✍"),
  ("writing_hand_dark_skin_tone", "✍🏿"), ("writing_hand_light_skin_tone", "✍🏻"),
  ("writing_hand_medium-dark_skin_tone", "✍🏾"), ("writing_hand_medium-light_skin_tone", "✍🏼"),
  ("writing_hand_medium_skin_tone", "✍🏽"), ("x", "❌"), ("yarn", "🧶"), ("yawning_face", "🥱"),
  ("yellow_circle", "🟡"), ("yellow_heart", "💛"), ("yellow_square", "🟨"), ("yemen", "🇾🇪"),
  ("yen", "💴"), ("yen_banknote", "💴"), ("yin_yang", "☯"), ("yo-yo", "🪀"), ("yum", "😋"),
  ("zambia", "🇿🇲"), ("zany_face", "🤪"), ("zap", "⚡"), ("zebra", "🦓"), ("zero", "0\ufe0f⃣"),
  ("zimbabwe", "🇿🇼"), ("zipper-mouth_face", "🤐"), ("zipper__mouth_face", "🤐"), ("zombie", "🧟"),
  ("zzz", "💤")]

end DataContract.Console.Emoji
