import VCard.Time.Offset
/-! Named time zones and their offsets from UTC.

vCard 2.1 can only write a zone as a UTC offset, so a zone given by name must be
turned into one. The names are those of the tz database (release 2026a), its
zones and the older names linked to them, together with `posixrules` (New York's
rules) and `localtime` (UTC). A zone with daylight saving time is given the
offset it keeps in the northern winter. Any other text, including a name that
differs from one of these only in spelling or case (`Etc/GMT+05`), is no zone
and has no offset. -/
namespace VCard

/-- Zone names with the offset of each: whether it lies east of UTC (or on it),
then hours and minutes. -/
def zoneTable : List (String × Bool × Nat × Nat) :=
  [("Africa/Abidjan", true, 0, 0), ("Africa/Accra", true, 0, 0),
   ("Africa/Addis_Ababa", true, 3, 0), ("Africa/Algiers", true, 1, 0),
   ("Africa/Asmara", true, 3, 0), ("Africa/Asmera", true, 3, 0), ("Africa/Bamako", true, 0, 0),
   ("Africa/Bangui", true, 1, 0), ("Africa/Banjul", true, 0, 0), ("Africa/Bissau", true, 0, 0),
   ("Africa/Blantyre", true, 2, 0), ("Africa/Brazzaville", true, 1, 0),
   ("Africa/Bujumbura", true, 2, 0), ("Africa/Cairo", true, 2, 0),
   ("Africa/Casablanca", true, 1, 0), ("Africa/Ceuta", true, 1, 0), ("Africa/Conakry", true, 0, 0),
   ("Africa/Dakar", true, 0, 0), ("Africa/Dar_es_Salaam", true, 3, 0),
   ("Africa/Djibouti", true, 3, 0), ("Africa/Douala", true, 1, 0), ("Africa/El_Aaiun", true, 1, 0),
   ("Africa/Freetown", true, 0, 0), ("Africa/Gaborone", true, 2, 0), ("Africa/Harare", true, 2, 0),
   ("Africa/Johannesburg", true, 2, 0), ("Africa/Juba", true, 2, 0),
   ("Africa/Kampala", true, 3, 0), ("Africa/Khartoum", true, 2, 0), ("Africa/Kigali", true, 2, 0),
   ("Africa/Kinshasa", true, 1, 0), ("Africa/Lagos", true, 1, 0),
   ("Africa/Libreville", true, 1, 0), ("Africa/Lome", true, 0, 0), ("Africa/Luanda", true, 1, 0),
   ("Africa/Lubumbashi", true, 2, 0), ("Africa/Lusaka", true, 2, 0), ("Africa/Malabo", true, 1, 0),
   ("Africa/Maputo", true, 2, 0), ("Africa/Maseru", true, 2, 0), ("Africa/Mbabane", true, 2, 0),
   ("Africa/Mogadishu", true, 3, 0), ("Africa/Monrovia", true, 0, 0),
   ("Africa/Nairobi", true, 3, 0), ("Africa/Ndjamena", true, 1, 0), ("Africa/Niamey", true, 1, 0),
   ("Africa/Nouakchott", true, 0, 0), ("Africa/Ouagadougou", true, 0, 0),
   ("Africa/Porto-Novo", true, 1, 0), ("Africa/Sao_Tome", true, 0, 0),
   ("Africa/Timbuktu", true, 0, 0), ("Africa/Tripoli", true, 2, 0), ("Africa/Tunis", true, 1, 0),
   ("Africa/Windhoek", true, 2, 0), ("America/Adak", false, 10, 0),
   ("America/Anchorage", false, 9, 0), ("America/Anguilla", false, 4, 0),
   ("America/Antigua", false, 4, 0), ("America/Araguaina", false, 3, 0),
   ("America/Argentina/Buenos_Aires", false, 3, 0), ("America/Argentina/Catamarca", false, 3, 0),
   ("America/Argentina/ComodRivadavia", false, 3, 0), ("America/Argentina/Cordoba", false, 3, 0),
   ("America/Argentina/Jujuy", false, 3, 0), ("America/Argentina/La_Rioja", false, 3, 0),
   ("America/Argentina/Mendoza", false, 3, 0), ("America/Argentina/Rio_Gallegos", false, 3, 0),
   ("America/Argentina/Salta", false, 3, 0), ("America/Argentina/San_Juan", false, 3, 0),
   ("America/Argentina/San_Luis", false, 3, 0), ("America/Argentina/Tucuman", false, 3, 0),
   ("America/Argentina/Ushuaia", false, 3, 0), ("America/Aruba", false, 4, 0),
   ("America/Asuncion", false, 3, 0), ("America/Atikokan", false, 5, 0),
   ("America/Atka", false, 10, 0), ("America/Bahia", false, 3, 0),
   ("America/Bahia_Banderas", false, 6, 0), ("America/Barbados", false, 4, 0),
   ("America/Belem", false, 3, 0), ("America/Belize", false, 6, 0),
   ("America/Blanc-Sablon", false, 4, 0), ("America/Boa_Vista", false, 4, 0),
   ("America/Bogota", false, 5, 0), ("America/Boise", false, 7, 0),
   ("America/Buenos_Aires", false, 3, 0), ("America/Cambridge_Bay", false, 7, 0),
   ("America/Campo_Grande", false, 4, 0), ("America/Cancun", false, 5, 0),
   ("America/Caracas", false, 4, 0), ("America/Catamarca", false, 3, 0),
   ("America/Cayenne", false, 3, 0), ("America/Cayman", false, 5, 0),
   ("America/Chicago", false, 6, 0), ("America/Chihuahua", false, 6, 0),
   ("America/Ciudad_Juarez", false, 7, 0), ("America/Coral_Harbour", false, 5, 0),
   ("America/Cordoba", false, 3, 0), ("America/Costa_Rica", false, 6, 0),
   ("America/Coyhaique", false, 3, 0), ("America/Creston", false, 7, 0),
   ("America/Cuiaba", false, 4, 0), ("America/Curacao", false, 4, 0),
   ("America/Danmarkshavn", true, 0, 0), ("America/Dawson", false, 7, 0),
   ("America/Dawson_Creek", false, 7, 0), ("America/Denver", false, 7, 0),
   ("America/Detroit", false, 5, 0), ("America/Dominica", false, 4, 0),
   ("America/Edmonton", false, 7, 0), ("America/Eirunepe", false, 5, 0),
   ("America/El_Salvador", false, 6, 0), ("America/Ensenada", false, 8, 0),
   ("America/Fort_Nelson", false, 7, 0), ("America/Fort_Wayne", false, 5, 0),
   ("America/Fortaleza", false, 3, 0), ("America/Glace_Bay", false, 4, 0),
   ("America/Godthab", false, 2, 0), ("America/Goose_Bay", false, 4, 0),
   ("America/Grand_Turk", false, 5, 0), ("America/Grenada", false, 4, 0),
   ("America/Guadeloupe", false, 4, 0), ("America/Guatemala", false, 6, 0),
   ("America/Guayaquil", false, 5, 0), ("America/Guyana", false, 4, 0),
   ("America/Halifax", false, 4, 0), ("America/Havana", false, 5, 0),
   ("America/Hermosillo", false, 7, 0), ("America/Indiana/Indianapolis", false, 5, 0),
   ("America/Indiana/Knox", false, 6, 0), ("America/Indiana/Marengo", false, 5, 0),
   ("America/Indiana/Petersburg", false, 5, 0), ("America/Indiana/Tell_City", false, 6, 0),
   ("America/Indiana/Vevay", false, 5, 0), ("America/Indiana/Vincennes", false, 5, 0),
   ("America/Indiana/Winamac", false, 5, 0), ("America/Indianapolis", false, 5, 0),
   ("America/Inuvik", false, 7, 0), ("America/Iqaluit", false, 5, 0),
   ("America/Jamaica", false, 5, 0), ("America/Jujuy", false, 3, 0),
   ("America/Juneau", false, 9, 0), ("America/Kentucky/Louisville", false, 5, 0),
   ("America/Kentucky/Monticello", false, 5, 0), ("America/Knox_IN", false, 6, 0),
   ("America/Kralendijk", false, 4, 0), ("America/La_Paz", false, 4, 0),
   ("America/Lima", false, 5, 0), ("America/Los_Angeles", false, 8, 0),
   ("America/Louisville", false, 5, 0), ("America/Lower_Princes", false, 4, 0),
   ("America/Maceio", false, 3, 0), ("America/Managua", false, 6, 0),
   ("America/Manaus", false, 4, 0), ("America/Marigot", false, 4, 0),
   ("America/Martinique", false, 4, 0), ("America/Matamoros", false, 6, 0),
   ("America/Mazatlan", false, 7, 0), ("America/Mendoza", false, 3, 0),
   ("America/Menominee", false, 6, 0), ("America/Merida", false, 6, 0),
   ("America/Metlakatla", false, 9, 0), ("America/Mexico_City", false, 6, 0),
   ("America/Miquelon", false, 3, 0), ("America/Moncton", false, 4, 0),
   ("America/Monterrey", false, 6, 0), ("America/Montevideo", false, 3, 0),
   ("America/Montreal", false, 5, 0), ("America/Montserrat", false, 4, 0),
   ("America/Nassau", false, 5, 0), ("America/New_York", false, 5, 0),
   ("America/Nipigon", false, 5, 0), ("America/Nome", false, 9, 0),
   ("America/Noronha", false, 2, 0), ("America/North_Dakota/Beulah", false, 6, 0),
   ("America/North_Dakota/Center", false, 6, 0), ("America/North_Dakota/New_Salem", false, 6, 0),
   ("America/Nuuk", false, 2, 0), ("America/Ojinaga", false, 6, 0),
   ("America/Panama", false, 5, 0), ("America/Pangnirtung", false, 5, 0),
   ("America/Paramaribo", false, 3, 0), ("America/Phoenix", false, 7, 0),
   ("America/Port-au-Prince", false, 5, 0), ("America/Port_of_Spain", false, 4, 0),
   ("America/Porto_Acre", false, 5, 0), ("America/Porto_Velho", false, 4, 0),
   ("America/Puerto_Rico", false, 4, 0), ("America/Punta_Arenas", false, 3, 0),
   ("America/Rainy_River", false, 6, 0), ("America/Rankin_Inlet", false, 6, 0),
   ("America/Recife", false, 3, 0), ("America/Regina", false, 6, 0),
   ("America/Resolute", false, 6, 0), ("America/Rio_Branco", false, 5, 0),
   ("America/Rosario", false, 3, 0), ("America/Santa_Isabel", false, 8, 0),
   ("America/Santarem", false, 3, 0), ("America/Santiago", false, 3, 0),
   ("America/Santo_Domingo", false, 4, 0), ("America/Sao_Paulo", false, 3, 0),
   ("America/Scoresbysund", false, 2, 0), ("America/Shiprock", false, 7, 0),
   ("America/Sitka", false, 9, 0), ("America/St_Barthelemy", false, 4, 0),
   ("America/St_Johns", false, 3, 30), ("America/St_Kitts", false, 4, 0),
   ("America/St_Lucia", false, 4, 0), ("America/St_Thomas", false, 4, 0),
   ("America/St_Vincent", false, 4, 0), ("America/Swift_Current", false, 6, 0),
   ("America/Tegucigalpa", false, 6, 0), ("America/Thule", false, 4, 0),
   ("America/Thunder_Bay", false, 5, 0), ("America/Tijuana", false, 8, 0),
   ("America/Toronto", false, 5, 0), ("America/Tortola", false, 4, 0),
   ("America/Vancouver", false, 8, 0), ("America/Virgin", false, 4, 0),
   ("America/Whitehorse", false, 7, 0), ("America/Winnipeg", false, 6, 0),
   ("America/Yakutat", false, 9, 0), ("America/Yellowknife", false, 7, 0),
   ("Antarctica/Casey", true, 8, 0), ("Antarctica/Davis", true, 7, 0),
   ("Antarctica/DumontDUrville", true, 10, 0), ("Antarctica/Macquarie", true, 11, 0),
   ("Antarctica/Mawson", true, 5, 0), ("Antarctica/McMurdo", true, 13, 0),
   ("Antarctica/Palmer", false, 3, 0), ("Antarctica/Rothera", false, 3, 0),
   ("Antarctica/South_Pole", true, 13, 0), ("Antarctica/Syowa", true, 3, 0),
   ("Antarctica/Troll", true, 0, 0), ("Antarctica/Vostok", true, 5, 0),
   ("Arctic/Longyearbyen", true, 1, 0), ("Asia/Aden", true, 3, 0), ("Asia/Almaty", true, 5, 0),
   ("Asia/Amman", true, 3, 0), ("Asia/Anadyr", true, 12, 0), ("Asia/Aqtau", true, 5, 0),
   ("Asia/Aqtobe", true, 5, 0), ("Asia/Ashgabat", true, 5, 0), ("Asia/Ashkhabad", true, 5, 0),
   ("Asia/Atyrau", true, 5, 0), ("Asia/Baghdad", true, 3, 0), ("Asia/Bahrain", true, 3, 0),
   ("Asia/Baku", true, 4, 0), ("Asia/Bangkok", true, 7, 0), ("Asia/Barnaul", true, 7, 0),
   ("Asia/Beirut", true, 2, 0), ("Asia/Bishkek", true, 6, 0), ("Asia/Brunei", true, 8, 0),
   ("Asia/Calcutta", true, 5, 30), ("Asia/Chita", true, 9, 0), ("Asia/Choibalsan", true, 8, 0),
   ("Asia/Chongqing", true, 8, 0), ("Asia/Chungking", true, 8, 0), ("Asia/Colombo", true, 5, 30),
   ("Asia/Dacca", true, 6, 0), ("Asia/Damascus", true, 3, 0), ("Asia/Dhaka", true, 6, 0),
   ("Asia/Dili", true, 9, 0), ("Asia/Dubai", true, 4, 0), ("Asia/Dushanbe", true, 5, 0),
   ("Asia/Famagusta", true, 2, 0), ("Asia/Gaza", true, 2, 0), ("Asia/Harbin", true, 8, 0),
   ("Asia/Hebron", true, 2, 0), ("Asia/Ho_Chi_Minh", true, 7, 0), ("Asia/Hong_Kong", true, 8, 0),
   ("Asia/Hovd", true, 7, 0), ("Asia/Irkutsk", true, 8, 0), ("Asia/Istanbul", true, 3, 0),
   ("Asia/Jakarta", true, 7, 0), ("Asia/Jayapura", true, 9, 0), ("Asia/Jerusalem", true, 2, 0),
   ("Asia/Kabul", true, 4, 30), ("Asia/Kamchatka", true, 12, 0), ("Asia/Karachi", true, 5, 0),
   ("Asia/Kashgar", true, 6, 0), ("Asia/Kathmandu", true, 5, 45), ("Asia/Katmandu", true, 5, 45),
   ("Asia/Khandyga", true, 9, 0), ("Asia/Kolkata", true, 5, 30), ("Asia/Krasnoyarsk", true, 7, 0),
   ("Asia/Kuala_Lumpur", true, 8, 0), ("Asia/Kuching", true, 8, 0), ("Asia/Kuwait", true, 3, 0),
   ("Asia/Macao", true, 8, 0), ("Asia/Macau", true, 8, 0), ("Asia/Magadan", true, 11, 0),
   ("Asia/Makassar", true, 8, 0), ("Asia/Manila", true, 8, 0), ("Asia/Muscat", true, 4, 0),
   ("Asia/Nicosia", true, 2, 0), ("Asia/Novokuznetsk", true, 7, 0),
   ("Asia/Novosibirsk", true, 7, 0), ("Asia/Omsk", true, 6, 0), ("Asia/Oral", true, 5, 0),
   ("Asia/Phnom_Penh", true, 7, 0), ("Asia/Pontianak", true, 7, 0), ("Asia/Pyongyang", true, 9, 0),
   ("Asia/Qatar", true, 3, 0), ("Asia/Qostanay", true, 5, 0), ("Asia/Qyzylorda", true, 5, 0),
   ("Asia/Rangoon", true, 6, 30), ("Asia/Riyadh", true, 3, 0), ("Asia/Saigon", true, 7, 0),
   ("Asia/Sakhalin", true, 11, 0), ("Asia/Samarkand", true, 5, 0), ("Asia/Seoul", true, 9, 0),
   ("Asia/Shanghai", true, 8, 0), ("Asia/Singapore", true, 8, 0),
   ("Asia/Srednekolymsk", true, 11, 0), ("Asia/Taipei", true, 8, 0), ("Asia/Tashkent", true, 5, 0),
   ("Asia/Tbilisi", true, 4, 0), ("Asia/Tehran", true, 3, 30), ("Asia/Tel_Aviv", true, 2, 0),
   ("Asia/Thimbu", true, 6, 0), ("Asia/Thimphu", true, 6, 0), ("Asia/Tokyo", true, 9, 0),
   ("Asia/Tomsk", true, 7, 0), ("Asia/Ujung_Pandang", true, 8, 0),
   ("Asia/Ulaanbaatar", true, 8, 0), ("Asia/Ulan_Bator", true, 8, 0), ("Asia/Urumqi", true, 6, 0),
   ("Asia/Ust-Nera", true, 10, 0), ("Asia/Vientiane", true, 7, 0),
   ("Asia/Vladivostok", true, 10, 0), ("Asia/Yakutsk", true, 9, 0), ("Asia/Yangon", true, 6, 30),
   ("Asia/Yekaterinburg", true, 5, 0), ("Asia/Yerevan", true, 4, 0),
   ("Atlantic/Azores", false, 1, 0), ("Atlantic/Bermuda", false, 4, 0),
   ("Atlantic/Canary", true, 0, 0), ("Atlantic/Cape_Verde", false, 1, 0),
   ("Atlantic/Faeroe", true, 0, 0), ("Atlantic/Faroe", true, 0, 0),
   ("Atlantic/Jan_Mayen", true, 1, 0), ("Atlantic/Madeira", true, 0, 0),
   ("Atlantic/Reykjavik", true, 0, 0), ("Atlantic/South_Georgia", false, 2, 0),
   ("Atlantic/St_Helena", true, 0, 0), ("Atlantic/Stanley", false, 3, 0),
   ("Australia/ACT", true, 11, 0), ("Australia/Adelaide", true, 10, 30),
   ("Australia/Brisbane", true, 10, 0), ("Australia/Broken_Hill", true, 10, 30),
   ("Australia/Canberra", true, 11, 0), ("Australia/Currie", true, 11, 0),
   ("Australia/Darwin", true, 9, 30), ("Australia/Eucla", true, 8, 45),
   ("Australia/Hobart", true, 11, 0), ("Australia/LHI", true, 11, 0),
   ("Australia/Lindeman", true, 10, 0), ("Australia/Lord_Howe", true, 11, 0),
   ("Australia/Melbourne", true, 11, 0), ("Australia/NSW", true, 11, 0),
   ("Australia/North", true, 9, 30), ("Australia/Perth", true, 8, 0),
   ("Australia/Queensland", true, 10, 0), ("Australia/South", true, 10, 30),
   ("Australia/Sydney", true, 11, 0), ("Australia/Tasmania", true, 11, 0),
   ("Australia/Victoria", true, 11, 0), ("Australia/West", true, 8, 0),
   ("Australia/Yancowinna", true, 10, 30), ("Brazil/Acre", false, 5, 0),
   ("Brazil/DeNoronha", false, 2, 0), ("Brazil/East", false, 3, 0), ("Brazil/West", false, 4, 0),
   ("CET", true, 1, 0), ("CST6CDT", false, 6, 0), ("Canada/Atlantic", false, 4, 0),
   ("Canada/Central", false, 6, 0), ("Canada/Eastern", false, 5, 0),
   ("Canada/Mountain", false, 7, 0), ("Canada/Newfoundland", false, 3, 30),
   ("Canada/Pacific", false, 8, 0), ("Canada/Saskatchewan", false, 6, 0),
   ("Canada/Yukon", false, 7, 0), ("Chile/Continental", false, 3, 0),
   ("Chile/EasterIsland", false, 5, 0), ("Cuba", false, 5, 0), ("EET", true, 2, 0),
   ("EST", false, 5, 0), ("EST5EDT", false, 5, 0), ("Egypt", true, 2, 0), ("Eire", true, 0, 0),
   ("Etc/GMT", true, 0, 0), ("Etc/GMT+0", true, 0, 0), ("Etc/GMT+1", false, 1, 0),
   ("Etc/GMT+10", false, 10, 0), ("Etc/GMT+11", false, 11, 0), ("Etc/GMT+12", false, 12, 0),
   ("Etc/GMT+2", false, 2, 0), ("Etc/GMT+3", false, 3, 0), ("Etc/GMT+4", false, 4, 0),
   ("Etc/GMT+5", false, 5, 0), ("Etc/GMT+6", false, 6, 0), ("Etc/GMT+7", false, 7, 0),
   ("Etc/GMT+8", false, 8, 0), ("Etc/GMT+9", false, 9, 0), ("Etc/GMT-0", true, 0, 0),
   ("Etc/GMT-1", true, 1, 0), ("Etc/GMT-10", true, 10, 0), ("Etc/GMT-11", true, 11, 0),
   ("Etc/GMT-12", true, 12, 0), ("Etc/GMT-13", true, 13, 0), ("Etc/GMT-14", true, 14, 0),
   ("Etc/GMT-2", true, 2, 0), ("Etc/GMT-3", true, 3, 0), ("Etc/GMT-4", true, 4, 0),
   ("Etc/GMT-5", true, 5, 0), ("Etc/GMT-6", true, 6, 0), ("Etc/GMT-7", true, 7, 0),
   ("Etc/GMT-8", true, 8, 0), ("Etc/GMT-9", true, 9, 0), ("Etc/GMT0", true, 0, 0),
   ("Etc/Greenwich", true, 0, 0), ("Etc/UCT", true, 0, 0), ("Etc/UTC", true, 0, 0),
   ("Etc/Universal", true, 0, 0), ("Etc/Zulu", true, 0, 0), ("Europe/Amsterdam", true, 1, 0),
   ("Europe/Andorra", true, 1, 0), ("Europe/Astrakhan", true, 4, 0), ("Europe/Athens", true, 2, 0),
   ("Europe/Belfast", true, 0, 0), ("Europe/Belgrade", true, 1, 0), ("Europe/Berlin", true, 1, 0),
   ("Europe/Bratislava", true, 1, 0), ("Europe/Brussels", true, 1, 0),
   ("Europe/Bucharest", true, 2, 0), ("Europe/Budapest", true, 1, 0),
   ("Europe/Busingen", true, 1, 0), ("Europe/Chisinau", true, 2, 0),
   ("Europe/Copenhagen", true, 1, 0), ("Europe/Dublin", true, 0, 0),
   ("Europe/Gibraltar", true, 1, 0), ("Europe/Guernsey", true, 0, 0),
   ("Europe/Helsinki", true, 2, 0), ("Europe/Isle_of_Man", true, 0, 0),
   ("Europe/Istanbul", true, 3, 0), ("Europe/Jersey", true, 0, 0),
   ("Europe/Kaliningrad", true, 2, 0), ("Europe/Kiev", true, 2, 0), ("Europe/Kirov", true, 3, 0),
   ("Europe/Kyiv", true, 2, 0), ("Europe/Lisbon", true, 0, 0), ("Europe/Ljubljana", true, 1, 0),
   ("Europe/London", true, 0, 0), ("Europe/Luxembourg", true, 1, 0), ("Europe/Madrid", true, 1, 0),
   ("Europe/Malta", true, 1, 0), ("Europe/Mariehamn", true, 2, 0), ("Europe/Minsk", true, 3, 0),
   ("Europe/Monaco", true, 1, 0), ("Europe/Moscow", true, 3, 0), ("Europe/Nicosia", true, 2, 0),
   ("Europe/Oslo", true, 1, 0), ("Europe/Paris", true, 1, 0), ("Europe/Podgorica", true, 1, 0),
   ("Europe/Prague", true, 1, 0), ("Europe/Riga", true, 2, 0), ("Europe/Rome", true, 1, 0),
   ("Europe/Samara", true, 4, 0), ("Europe/San_Marino", true, 1, 0),
   ("Europe/Sarajevo", true, 1, 0), ("Europe/Saratov", true, 4, 0),
   ("Europe/Simferopol", true, 3, 0), ("Europe/Skopje", true, 1, 0), ("Europe/Sofia", true, 2, 0),
   ("Europe/Stockholm", true, 1, 0), ("Europe/Tallinn", true, 2, 0), ("Europe/Tirane", true, 1, 0),
   ("Europe/Tiraspol", true, 2, 0), ("Europe/Ulyanovsk", true, 4, 0),
   ("Europe/Uzhgorod", true, 2, 0), ("Europe/Vaduz", true, 1, 0), ("Europe/Vatican", true, 1, 0),
   ("Europe/Vienna", true, 1, 0), ("Europe/Vilnius", true, 2, 0), ("Europe/Volgograd", true, 3, 0),
   ("Europe/Warsaw", true, 1, 0), ("Europe/Zagreb", true, 1, 0), ("Europe/Zaporozhye", true, 2, 0),
   ("Europe/Zurich", true, 1, 0), ("Factory", true, 0, 0), ("GB", true, 0, 0),
   ("GB-Eire", true, 0, 0), ("GMT", true, 0, 0), ("GMT+0", true, 0, 0), ("GMT-0", true, 0, 0),
   ("GMT0", true, 0, 0), ("Greenwich", true, 0, 0), ("HST", false, 10, 0),
   ("Hongkong", true, 8, 0), ("Iceland", true, 0, 0), ("Indian/Antananarivo", true, 3, 0),
   ("Indian/Chagos", true, 6, 0), ("Indian/Christmas", true, 7, 0), ("Indian/Cocos", true, 6, 30),
   ("Indian/Comoro", true, 3, 0), ("Indian/Kerguelen", true, 5, 0), ("Indian/Mahe", true, 4, 0),
   ("Indian/Maldives", true, 5, 0), ("Indian/Mauritius", true, 4, 0),
   ("Indian/Mayotte", true, 3, 0), ("Indian/Reunion", true, 4, 0), ("Iran", true, 3, 30),
   ("Israel", true, 2, 0), ("Jamaica", false, 5, 0), ("Japan", true, 9, 0),
   ("Kwajalein", true, 12, 0), ("Libya", true, 2, 0), ("MET", true, 1, 0), ("MST", false, 7, 0),
   ("MST7MDT", false, 7, 0), ("Mexico/BajaNorte", false, 8, 0), ("Mexico/BajaSur", false, 7, 0),
   ("Mexico/General", false, 6, 0), ("NZ", true, 13, 0), ("NZ-CHAT", true, 13, 45),
   ("Navajo", false, 7, 0), ("PRC", true, 8, 0), ("PST8PDT", false, 8, 0),
   ("Pacific/Apia", true, 13, 0), ("Pacific/Auckland", true, 13, 0),
   ("Pacific/Bougainville", true, 11, 0), ("Pacific/Chatham", true, 13, 45),
   ("Pacific/Chuuk", true, 10, 0), ("Pacific/Easter", false, 5, 0), ("Pacific/Efate", true, 11, 0),
   ("Pacific/Enderbury", true, 13, 0), ("Pacific/Fakaofo", true, 13, 0),
   ("Pacific/Fiji", true, 12, 0), ("Pacific/Funafuti", true, 12, 0),
   ("Pacific/Galapagos", false, 6, 0), ("Pacific/Gambier", false, 9, 0),
   ("Pacific/Guadalcanal", true, 11, 0), ("Pacific/Guam", true, 10, 0),
   ("Pacific/Honolulu", false, 10, 0), ("Pacific/Johnston", false, 10, 0),
   ("Pacific/Kanton", true, 13, 0), ("Pacific/Kiritimati", true, 14, 0),
   ("Pacific/Kosrae", true, 11, 0), ("Pacific/Kwajalein", true, 12, 0),
   ("Pacific/Majuro", true, 12, 0), ("Pacific/Marquesas", false, 9, 30),
   ("Pacific/Midway", false, 11, 0), ("Pacific/Nauru", true, 12, 0),
   ("Pacific/Niue", false, 11, 0), ("Pacific/Norfolk", true, 12, 0),
   ("Pacific/Noumea", true, 11, 0), ("Pacific/Pago_Pago", false, 11, 0),
   ("Pacific/Palau", true, 9, 0), ("Pacific/Pitcairn", false, 8, 0),
   ("Pacific/Pohnpei", true, 11, 0), ("Pacific/Ponape", true, 11, 0),
   ("Pacific/Port_Moresby", true, 10, 0), ("Pacific/Rarotonga", false, 10, 0),
   ("Pacific/Saipan", true, 10, 0), ("Pacific/Samoa", false, 11, 0),
   ("Pacific/Tahiti", false, 10, 0), ("Pacific/Tarawa", true, 12, 0),
   ("Pacific/Tongatapu", true, 13, 0), ("Pacific/Truk", true, 10, 0),
   ("Pacific/Wake", true, 12, 0), ("Pacific/Wallis", true, 12, 0), ("Pacific/Yap", true, 10, 0),
   ("Poland", true, 1, 0), ("Portugal", true, 0, 0), ("ROC", true, 8, 0), ("ROK", true, 9, 0),
   ("Singapore", true, 8, 0), ("Turkey", true, 3, 0), ("UCT", true, 0, 0),
   ("US/Alaska", false, 9, 0), ("US/Aleutian", false, 10, 0), ("US/Arizona", false, 7, 0),
   ("US/Central", false, 6, 0), ("US/East-Indiana", false, 5, 0), ("US/Eastern", false, 5, 0),
   ("US/Hawaii", false, 10, 0), ("US/Indiana-Starke", false, 6, 0), ("US/Michigan", false, 5, 0),
   ("US/Mountain", false, 7, 0), ("US/Pacific", false, 8, 0), ("US/Samoa", false, 11, 0),
   ("UTC", true, 0, 0), ("Universal", true, 0, 0), ("W-SU", true, 3, 0), ("WET", true, 0, 0),
   ("Zulu", true, 0, 0), ("localtime", true, 0, 0), ("posixrules", false, 5, 0)]

/-- The offset of a zone name, or none when no zone has that name. -/
def zoneOffset? (name : String) : Option UtcOffset :=
  (zoneTable.find? (·.1 == name)).bind fun (_, east, h, m) =>
    match UtcOffset.make east h m with
    | .ok o => some o
    | .error _ => none

end VCard
