/-!
# The settings that ship with the program

The variables as they are set where nothing else sets them.
-/

namespace SwapMarket.Settings

/-- The lines of the shipped settings. -/
def shippedLines : List String := [
    "SERVER_HOST=0.0.0.0", "PORT=7068", "TIMEOUT=10", "IS_TESTING=false",
    "CACHE_DIRECTORY=cache", "MM2_DB_DIRECTORY=DB", "NETIDS=7777,8762", "SEED_NODE_HOST=",
    "SEED_NODE_USER=", "SEED_NODE_DB_PATH=/home/admin/.komodo/DB", "SYNC_INTERVAL=60",
    "COINS_URL=https://raw.githubusercontent.com/KomodoPlatform/coins/master/coins",
    "COINS_CONFIG_URL=https://raw.githubusercontent.com/KomodoPlatform/coins/master/utils/coins_config.json",
    "COINGECKO_API=https://api.coingecko.com/api/v3", "FIXER_API=https://data.fixer.io/api",
    "FIXER_API_KEY=", "BINANCE_API=https://api.binance.com/api/v3", "KDF_RPC_URL=",
    "KDF_USERPASS=", "IP2LOCATION_DB=IP2LOCATION-LITE-DB1.IPV6.CSV", "GEO_BLOCKLIST=",
    "COINS_INTERVAL=86400", "GECKO_INTERVAL=600", "FIXER_INTERVAL=600", "BINANCE_INTERVAL=60",
    "PAIRS_INTERVAL=60", "TICKERS_INTERVAL=60", "RETRY_INTERVAL=30", "REFRESH_CHECK_INTERVAL=5",
    "PAIRS_DAYS=30", "FIXER_MAX_AGE=900", "MAX_CONCURRENT_REQUESTS=8"]

/-- The text of the shipped settings. -/
def shippedText : String := String.join (shippedLines.map (· ++ "\n"))

end SwapMarket.Settings
