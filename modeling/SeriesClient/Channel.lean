/-! Push channels: each stream has one for its datapoints and one, the downlink, for what others send
to its device. -/

namespace SeriesClient.Channel

def downlinkSuffix : String := "/downlink"

def ofStream (stream : String) (downlink : Bool) : String :=
  if downlink then stream ++ downlinkSuffix else stream

def isDownlink (channel : String) : Bool :=
  downlinkSuffix.toList.reverse.isPrefixOf channel.toList.reverse

end SeriesClient.Channel
